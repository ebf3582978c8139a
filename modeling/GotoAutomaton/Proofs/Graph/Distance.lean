import GotoAutomaton.Proofs.Graph.Enumeration
import GotoAutomaton.Proofs.Graph.Reach
import Mathlib.Data.List.Nodup
import Mathlib.Order.Bounds.Basic

/-!
# Breadth-first order

A search gives every point a level when it is queued: the start has level zero, and what is queued
on a visit has the next level after the visited point.  The levels do not fall along the visited
points and the queue behind them, and the queue holds at most two levels, one after the other.  When
the queue is empty no successor of a visited point is more than one level behind it, so no walk ends
before the level of its end, and the level is the distance from the start.

Main statements: a search visits points in the order of their distances (`Confined.exists_level`),
and what the search from a state of a built graph finds, in which order (`reachableFrom_build`).
-/

namespace GotoAutomaton

section Levels

variable {α : Type}

/-- The levels after points were marked: what was marked before keeps its level. -/
def raise [DecidableEq α] (level : α → Nat) (seen : List α) (k : Nat) : α → Nat :=
  fun x => if x ∈ seen then level x else k

theorem raise_of_mem
    [DecidableEq α]
    {level : α → Nat}
    {seen : List α}
    {x : α}
    (hx : x ∈ seen)
    (k : Nat) :
    raise level seen k x = level x :=
  if_pos hx

theorem raise_of_mem_firstSeen
    [DecidableEq α]
    {level : α → Nat}
    {seen xs : List α}
    {x : α}
    (hx : x ∈ firstSeen seen xs)
    (k : Nat) :
    raise level seen k x = k :=
  if_neg (mem_firstSeen.1 hx).2

/-- How a search from a start stands, and the levels of the points that are marked. -/
structure Layered
    (next : α → List α)
    (start : α)
    (points : List α)
    (level : α → Nat)
    (visited queue seen : List α) : Prop
    extends Frontier next start points visited queue seen where
  level_start : level start = 0
  walk : ∀ x ∈ seen, Walk next start (level x) x
  ascending : (visited ++ queue).Pairwise fun x y => level x ≤ level y
  /-- The queue holds two levels at most, and nothing is on a later one. -/
  width : ∀ x ∈ seen, ∀ y ∈ queue, level x ≤ level y + 1
  step : ∀ x ∈ visited, ∀ y ∈ next x, level y ≤ level x + 1

namespace Layered

variable {next : α → List α} {start x : α} {points visited queue seen : List α} {level : α → Nat}

theorem begin (hstart : start ∈ points) :
    Layered next start points (fun _ => 0) [] [start] [start] where
  toFrontier := Frontier.begin hstart
  level_start := rfl
  walk x hx := by
    rw [List.mem_singleton.1 hx]
    exact .nil
  ascending := by simp
  width x _ y _ := Nat.zero_le _
  step x hx := by simp at hx

/-- What is visited or queued is marked. -/
theorem mem_seen
    {y : α}
    (h : Layered next start points level visited queue seen)
    (hy : y ∈ visited ++ queue) :
    y ∈ seen :=
  (h.seen_iff y).2 hy

/-- Nothing follows the first point of the queue on an earlier level. -/
theorem le_of_mem_queue
    {y : α}
    (h : Layered next start points level visited (x :: queue) seen)
    (hy : y ∈ queue) :
    level x ≤ level y := by
  have hascending := (List.pairwise_append.1 h.ascending).2.1
  exact (List.pairwise_cons.1 hascending).1 y hy

/-- No walk ends on a level later than its length. -/
theorem level_le
    {k : Nat}
    (h : Layered next start points level visited [] seen)
    (hwalk : Walk next start k x) :
    x ∈ visited ∧ level x ≤ k := by
  have hvisited (y : α) (hy : y ∈ seen) : y ∈ visited := by
    simpa using (h.seen_iff y).1 hy
  induction hwalk with
  | nil =>
      exact ⟨hvisited start h.start_mem, Nat.le_of_eq h.level_start⟩
  | @concat k y z _ hstep ih =>
      obtain ⟨hy, hle⟩ := ih
      refine ⟨hvisited z (h.closed y hy z hstep), ?_⟩
      have hlevel := h.step y hy z hstep
      omega

variable [DecidableEq α]

/-- After a visit nothing is later than the next level, where the new points are. -/
theorem raise_le
    {y : α}
    (h : Layered next start points level visited (x :: queue) seen)
    (hy : y ∈ firstSeen seen (next x) ++ seen) :
    raise level seen (level x + 1) y ≤ level x + 1 := by
  rcases List.mem_append.1 hy with hy | hy
  · exact Nat.le_of_eq (raise_of_mem_firstSeen hy _)
  · rw [raise_of_mem hy]
    exact h.width y hy x List.mem_cons_self

theorem walk_visit
    {y : α}
    (h : Layered next start points level visited (x :: queue) seen)
    (hy : y ∈ firstSeen seen (next x) ++ seen) :
    Walk next start (raise level seen (level x + 1) y) y := by
  rcases List.mem_append.1 hy with hy | hy
  · rw [raise_of_mem_firstSeen hy]
    exact (h.walk x (h.mem_seen (by simp))).concat (mem_firstSeen.1 hy).1
  · rw [raise_of_mem hy]
    exact h.walk y hy

theorem ascending_visit (h : Layered next start points level visited (x :: queue) seen) :
    (visited ++ [x] ++ (queue ++ firstSeen seen (next x))).Pairwise fun y z =>
      raise level seen (level x + 1) y ≤ raise level seen (level x + 1) z := by
  have hsplit :
      visited ++ [x] ++ (queue ++ firstSeen seen (next x)) =
        (visited ++ x :: queue) ++ firstSeen seen (next x) := by
    simp
  rw [hsplit, List.pairwise_append]
  refine ⟨?_, ?_, ?_⟩
  · refine h.ascending.imp_of_mem ?_
    intro y z hy hz hyz
    rwa [raise_of_mem (h.mem_seen hy), raise_of_mem (h.mem_seen hz)]
  · refine List.pairwise_of_forall_mem_list ?_
    intro y hy z hz
    rw [raise_of_mem_firstSeen hy, raise_of_mem_firstSeen hz]
  · intro y hy z hz
    rw [raise_of_mem_firstSeen hz]
    exact h.raise_le (List.mem_append_right _ (h.mem_seen hy))

theorem width_visit
    {y z : α}
    (h : Layered next start points level visited (x :: queue) seen)
    (hy : y ∈ firstSeen seen (next x) ++ seen)
    (hz : z ∈ queue ++ firstSeen seen (next x)) :
    raise level seen (level x + 1) y ≤ raise level seen (level x + 1) z + 1 := by
  have hxz : level x ≤ raise level seen (level x + 1) z := by
    rcases List.mem_append.1 hz with hz | hz
    · rw [raise_of_mem (h.mem_seen (by simp [hz]))]
      exact h.le_of_mem_queue hz
    · rw [raise_of_mem_firstSeen hz]
      exact Nat.le_succ _
  exact Nat.le_trans (h.raise_le hy) (Nat.succ_le_succ hxz)

theorem step_visit
    {y z : α}
    (h : Layered next start points level visited (x :: queue) seen)
    (hy : y ∈ visited ++ [x])
    (hz : z ∈ next y) :
    raise level seen (level x + 1) z ≤ raise level seen (level x + 1) y + 1 := by
  rcases List.mem_append.1 hy with hy | hy
  · rw [raise_of_mem (h.mem_seen (List.mem_append_left _ hy)), raise_of_mem (h.closed y hy z hz)]
    exact h.step y hy z hz
  · rw [List.mem_singleton.1 hy] at hz ⊢
    have hx : x ∈ seen := h.mem_seen (by simp)
    rw [raise_of_mem hx]
    exact h.raise_le (mem_firstSeen_append hz seen)

/-- Visiting the first point of the queue puts what it marks on the next level. -/
theorem visit
    (h : Layered next start points level visited (x :: queue) seen)
    (hnext : ∀ y ∈ points, ∀ z ∈ next y, z ∈ points) :
    Layered next start points (raise level seen (level x + 1)) (visited ++ [x])
      (queue ++ firstSeen seen (next x)) (firstSeen seen (next x) ++ seen) where
  toFrontier := h.toFrontier.visit hnext
  level_start := by
    rw [raise_of_mem h.start_mem, h.level_start]
  walk _ hy := h.walk_visit hy
  ascending := h.ascending_visit
  width _ hy _ hz := h.width_visit hy hz
  step _ hy _ hz := h.step_visit hy hz

end Layered

/-- A search that is not cut short visits points in the order of their distances. -/
theorem Confined.exists_level
    [DecidableEq α]
    {next : α → List α}
    {start : α}
    {points : List α}
    {bound : Nat}
    (hsearch : Confined next start points bound) :
    ∃ level : α → Nat,
      (∀ x ∈ breadthFirst next bound start, IsLeast {k | Walk next start k x} (level x)) ∧
        (breadthFirst next bound start).Pairwise fun x y => level x ≤ level y := by
  let P (visited queue seen : List α) : Prop :=
    ∃ level, Layered next start points level visited queue seen
  have hvisit (visited : List α) (x : α) (queue seen : List α)
      (h : P visited (x :: queue) seen) :
      P (visited ++ [x]) (queue ++ firstSeen seen (next x)) (firstSeen seen (next x) ++ seen) := by
    obtain ⟨level, hlayered⟩ := h
    exact ⟨_, hlayered.visit hsearch.closed⟩
  have hbegin : P [] [start] [start] := ⟨_, Layered.begin hsearch.start_mem⟩
  obtain ⟨marked, level, hend⟩ :=
    hsearch.completes_breadthFirst.preserves (P := P) hvisit hbegin
  rw [List.nil_append] at hend
  refine ⟨level, ?_, ?_⟩
  · intro x hx
    refine ⟨hend.walk x ((hend.seen_iff x).2 (List.mem_append_left _ hx)), ?_⟩
    intro k hwalk
    exact (hend.level_le hwalk).2
  · simpa using hend.ascending

end Levels

namespace Graph

variable {σ : Type} {g : Graph σ} {x : StateId} {n : Nat}

/-- The states that are found are those of the visited nodes, in the same order. -/
theorem Faithful.map_node?_reachableFrom
    (hg : g.Faithful)
    (hx : g.node? x = some n) :
    (g.reachableFrom x).map g.node? = (breadthFirst g.successors g.nodes.size n).map some := by
  have hnode (m : Nat) (hm : m ∈ breadthFirst g.successors g.nodes.size n) :
      (g.nodes[m]?.map Node.state).map g.node? = some (some m) := by
    obtain ⟨k, hwalk⟩ := (hg.mem_breadthFirst_iff hx).1 hm
    obtain ⟨y, hy, _⟩ := hg.exists_path_of_walk hx hwalk
    rw [(hg.node?_iff y m).1 hy, Option.map_some, hy]
  simp only [reachableFrom, hx, List.map_filterMap]
  rw [List.filterMap_congr hnode]
  exact congrFun List.filterMap_eq_map _

/-- A state is found first when the search starts from it. -/
theorem Faithful.head?_reachableFrom
    (hg : g.Faithful)
    (x : StateId) :
    (g.reachableFrom x).head? = some x := by
  cases hx : g.node? x with
  | none =>
      rw [reachableFrom_of_node?_eq_none hx]
      rfl
  | some n =>
      have hlt := hg.node?_lt hx
      obtain ⟨bound, hbound⟩ : ∃ bound, g.nodes.size = bound + 1 := ⟨g.nodes.size - 1, by omega⟩
      have hstate := (hg.node?_iff x n).1 hx
      simp only [reachableFrom, hx, breadthFirst, hbound, visitQueue, List.filterMap_cons, hstate,
        List.head?_cons]

theorem Faithful.nodup_reachableFrom
    (hg : g.Faithful)
    (x : StateId) :
    (g.reachableFrom x).Nodup := by
  cases hx : g.node? x with
  | none =>
      rw [reachableFrom_of_node?_eq_none hx]
      exact List.nodup_singleton x
  | some n =>
      have hnodup : (breadthFirst g.successors g.nodes.size n).Nodup :=
        (hg.confined hx).nodup_breadthFirst
      apply List.Nodup.of_map g.node?
      rw [hg.map_node?_reachableFrom hx]
      exact hnodup.map (Option.some_injective Nat)

/-- The states are found in the order of the lengths of the shortest paths to them. -/
theorem Faithful.exists_distance
    (hg : g.Faithful)
    (x : StateId) :
    ∃ distance : StateId → Nat,
      (∀ y ∈ g.reachableFrom x, IsLeast {k | Path g.transitions x k y} (distance y)) ∧
        (g.reachableFrom x).Pairwise fun y z => distance y ≤ distance z := by
  cases hx : g.node? x with
  | none =>
      rw [reachableFrom_of_node?_eq_none hx]
      refine ⟨fun _ => 0, ?_, List.pairwise_singleton _ x⟩
      intro y hy
      rw [List.mem_singleton.1 hy]
      exact ⟨.nil x, fun _ _ => Nat.zero_le _⟩
  | some n =>
      obtain ⟨level, hleast, hascending⟩ := (hg.confined hx).exists_level
      have hnodes := hg.map_node?_reachableFrom hx
      refine ⟨fun y => level ((g.node? y).getD 0), ?_, ?_⟩
      · intro y hy
        have hmem : g.node? y ∈ (breadthFirst g.successors g.nodes.size n).map some := by
          rw [← hnodes]
          exact List.mem_map_of_mem hy
        obtain ⟨m, hm, hnode⟩ := List.mem_map.1 hmem
        have hwalks : {k | Path g.transitions x k y} = {k | Walk g.successors n k m} :=
          Set.ext fun k => (hg.walk_iff_path hx hnode.symm).symm
        simp only [← hnode, Option.getD_some, hwalks]
        exact hleast m hm
      · have hpairwise : ((g.reachableFrom x).map g.node?).Pairwise
            fun i j => level (i.getD 0) ≤ level (j.getD 0) := by
          rw [hnodes, List.pairwise_map]
          exact hascending
        rw [List.pairwise_map] at hpairwise
        exact hpairwise

/-- The search from a state of a built graph ends when its queue is empty, without being cut short.
It finds the state itself first and nothing twice; it finds exactly the other states to which a path
of added transitions leads; and it finds them in the order of the lengths of the shortest of these
paths.  From a state that the graph does not contain it finds nothing else. -/
theorem reachableFrom_build
    (additions : List (Addition σ))
    (x : StateId) :
    let g := build additions
    let ts := addedTransitions additions
    (∀ n, g.node? x = some n →
      Completes g.successors [n] [n] (breadthFirst g.successors g.nodes.size n) ∧
        (g.reachableFrom x).map g.node? =
          (breadthFirst g.successors g.nodes.size n).map some) ∧
    (g.reachableFrom x).head? = some x ∧
    (g.reachableFrom x).Nodup ∧
    (∀ y, y ∈ g.reachableFrom x ↔ y = x ∨ ∃ k, Path ts x (k + 1) y) ∧
    (∃ distance : StateId → Nat,
      (∀ y ∈ g.reachableFrom x, IsLeast {k | Path ts x k y} (distance y)) ∧
        (g.reachableFrom x).Pairwise fun y z => distance y ≤ distance z) ∧
    (g.contains x = false → g.reachableFrom x = [x]) := by
  intro g ts
  have hg : g.Faithful := faithful_build additions
  have hts : g.transitions = ts := transitions_build additions
  refine ⟨?_, hg.head?_reachableFrom x, hg.nodup_reachableFrom x, ?_, ?_, ?_⟩
  · intro n hx
    exact ⟨(hg.confined hx).completes_breadthFirst, hg.map_node?_reachableFrom hx⟩
  · intro y
    rw [hg.mem_reachableFrom_iff, hts, Path.exists_iff]
  · rw [← hts]
    exact hg.exists_distance x
  · intro hx
    apply reachableFrom_of_node?_eq_none
    simpa [contains, OrderedMap.contains, node?] using hx

/-- A loop, two parallel transitions and a cycle, and a state of another automaton that is not in
the graph. -/
theorem reachableFrom_build_cycle :
    let x : StateId := ⟨.first, 0⟩
    let y : StateId := ⟨.first, 1⟩
    let z : StateId := ⟨Tag.first.next, 1⟩
    let g : Graph Char := build [.transition ⟨x, 'a', x⟩, .transition ⟨x, 'b', y⟩,
      .transition ⟨x, 'c', y⟩, .transition ⟨y, 'd', x⟩]
    g.node? y = some 1 ∧ Completes g.successors [1] [1] [1, 0] ∧
      g.contains z = false ∧ g.reachableFrom z = [z] := by
  intro x y z g
  have hy : g.node? y = some 1 := by decide
  have hz : g.contains z = false := by decide
  obtain ⟨hsearch, _⟩ := reachableFrom_build _ y
  obtain ⟨_, _, _, _, _, halone⟩ := reachableFrom_build _ z
  have hvisited : breadthFirst g.successors g.nodes.size 1 = [1, 0] := by decide
  refine ⟨hy, ?_, hz, halone hz⟩
  rw [← hvisited]
  exact (hsearch 1 hy).1

end Graph

end GotoAutomaton
