import GotoAutomaton.Graph.Basic
import Mathlib.Data.List.Perm.Subperm
import Mathlib.Logic.Relation

/-!
# Walks and breadth-first search

A function that lists the successors of a point gives ways of going from point to point: any number
of times (`Reaches`), or a given number of times (`Walk`).  A walk has a length, and a walk of the
least length from a point to another gives their distance.

A breadth-first search has points behind it, which are visited and whose successors are all marked,
and a front, which is the queue.  Visiting the first point of the queue moves it behind the front
and queues the successors that were not marked.  As long as there are at most as many points as the
bound and the visited points together allow, the queue is empty when the search ends, so the visited
points are closed under successors.

Main statements: walks are put together and taken apart at their ends (`Walk.append`,
`Walk.exists_head`), and what is reached is where a walk ends (`reaches_iff_exists_walk`).  A search
that stays among as many points as its bound allows ends by itself
(`Confined.completes_breadthFirst`), so that whatever a visit keeps is kept by the whole search
(`Completes.preserves`), and it visits exactly what can be reached
(`Confined.mem_breadthFirst_iff`), and nothing twice (`Confined.nodup_breadthFirst`).
-/

namespace GotoAutomaton

variable {α : Type}

/-- Going from point to successor any number of times. -/
def Reaches (next : α → List α) : α → α → Prop :=
  Relation.ReflTransGen fun x y => y ∈ next x

/-- Going from point to successor a given number of times. -/
inductive Walk (next : α → List α) (x : α) : Nat → α → Prop
  | nil : Walk next x 0 x
  | concat {k : Nat} {y z : α} :
      Walk next x k y → z ∈ next y → Walk next x (k + 1) z

namespace Walk

variable {next : α → List α} {x y z : α} {k l : Nat}

/-- Walks are put together where one ends and the other starts. -/
theorem append
    (hxy : Walk next x k y)
    (hyz : Walk next y l z) :
    Walk next x (k + l) z := by
  induction hyz with
  | nil =>
      exact hxy
  | concat _ hstep ih =>
      exact ih.concat hstep

theorem single (hstep : y ∈ next x) : Walk next x 1 y :=
  nil.concat hstep

theorem cons
    (hstep : y ∈ next x)
    (hwalk : Walk next y k z) :
    Walk next x (k + 1) z := by
  rw [Nat.add_comm]
  exact (single hstep).append hwalk

/-- A walk that is not empty starts with a step. -/
theorem exists_head (hwalk : Walk next x (k + 1) z) : ∃ y ∈ next x, Walk next y k z := by
  induction k generalizing z with
  | zero =>
      cases hwalk with
      | concat hnil hstep =>
          cases hnil
          exact ⟨z, hstep, .nil⟩
  | succ k ih =>
      cases hwalk with
      | concat hfront hstep =>
          obtain ⟨y, hy, hrest⟩ := ih hfront
          exact ⟨y, hy, hrest.concat hstep⟩

end Walk

/-- What is reached is where a walk ends. -/
theorem reaches_iff_exists_walk
    {next : α → List α}
    {x y : α} :
    Reaches next x y ↔ ∃ k, Walk next x k y := by
  constructor
  · intro h
    induction h with
    | refl =>
        exact ⟨0, .nil⟩
    | tail _ hstep ih =>
        obtain ⟨k, hwalk⟩ := ih
        exact ⟨k + 1, hwalk.concat hstep⟩
  · rintro ⟨k, hwalk⟩
    induction hwalk with
    | nil =>
        exact .refl
    | concat _ hstep ih =>
        exact ih.tail hstep

/-- A search without a bound, from a queue and the points marked so far: it visits the given points
one after the other, and then its queue is empty. -/
inductive Completes
    [DecidableEq α]
    (next : α → List α) : List α → List α → List α → Prop
  | done (seen : List α) : Completes next [] seen []
  | visit {x : α} {queue seen visited : List α} :
      Completes next (queue ++ firstSeen seen (next x)) (firstSeen seen (next x) ++ seen) visited →
      Completes next (x :: queue) seen (x :: visited)

/-- What every visit keeps is kept until the queue is empty. -/
theorem Completes.preserves
    [DecidableEq α]
    {next : α → List α}
    {P : (visited queue seen : List α) → Prop}
    (hvisit : ∀ visited x queue seen, P visited (x :: queue) seen →
      P (visited ++ [x]) (queue ++ firstSeen seen (next x)) (firstSeen seen (next x) ++ seen))
    {visited queue seen rest : List α}
    (hsearch : Completes next queue seen rest)
    (hstart : P visited queue seen) :
    ∃ marked, P (visited ++ rest) [] marked := by
  induction hsearch generalizing visited with
  | done seen =>
      rw [List.append_nil]
      exact ⟨seen, hstart⟩
  | @visit x queue seen rest _ ih =>
      obtain ⟨marked, hend⟩ := ih (hvisit visited x queue seen hstart)
      rw [List.append_assoc] at hend
      exact ⟨marked, hend⟩

/-- What a visit meets is marked after it. -/
theorem mem_firstSeen_append
    [DecidableEq α]
    {x : α}
    {xs : List α}
    (hx : x ∈ xs)
    (seen : List α) :
    x ∈ firstSeen seen xs ++ seen := by
  by_cases hseen : x ∈ seen
  · exact List.mem_append_right _ hseen
  · exact List.mem_append_left _ (mem_firstSeen.2 ⟨hx, hseen⟩)

/-- How a search from a start stands among the given points. -/
structure Frontier
    (next : α → List α)
    (start : α)
    (points visited queue seen : List α) : Prop where
  nodup : (visited ++ queue).Nodup
  /-- What is marked is visited or queued. -/
  seen_iff : ∀ x, x ∈ seen ↔ x ∈ visited ++ queue
  closed : ∀ x ∈ visited, ∀ y ∈ next x, y ∈ seen
  reached : ∀ x ∈ seen, Reaches next start x
  within : ∀ x ∈ seen, x ∈ points
  start_mem : start ∈ seen

namespace Frontier

variable {next : α → List α} {start : α} {points visited queue seen : List α}

theorem begin (hstart : start ∈ points) :
    Frontier next start points [] [start] [start] where
  nodup := by simp
  seen_iff x := by simp
  closed x hx := by simp at hx
  reached x hx := by
    rw [List.mem_singleton.1 hx]
    exact .refl
  within x hx := by
    rw [List.mem_singleton.1 hx]
    exact hstart
  start_mem := List.mem_singleton.2 rfl

/-- There are no more visited and queued points than points. -/
theorem length_le (h : Frontier next start points visited queue seen) :
    visited.length + queue.length ≤ points.length := by
  have hsubset : visited ++ queue ⊆ points := by
    intro x hx
    exact h.within x ((h.seen_iff x).2 hx)
  have hlength := (h.nodup.subperm hsubset).length_le
  rwa [List.length_append] at hlength

variable [DecidableEq α]

/-- Visiting the first point of the queue keeps the search in order.  The fresh points are not
marked, so they are neither visited nor queued yet. -/
theorem visit
    {x : α}
    (h : Frontier next start points visited (x :: queue) seen)
    (hnext : ∀ y ∈ points, ∀ z ∈ next y, z ∈ points) :
    Frontier next start points (visited ++ [x])
      (queue ++ firstSeen seen (next x)) (firstSeen seen (next x) ++ seen) := by
  have hx : x ∈ seen := (h.seen_iff x).2 (by simp)
  refine ⟨?_, ?_, ?_, ?_, ?_, ?_⟩
  · have hsplit :
        visited ++ [x] ++ (queue ++ firstSeen seen (next x)) =
          (visited ++ x :: queue) ++ firstSeen seen (next x) := by
      simp
    rw [hsplit, List.nodup_append]
    refine ⟨h.nodup, nodup_firstSeen seen (next x), ?_⟩
    intro y hy z hz hyz
    subst hyz
    exact (mem_firstSeen.1 hz).2 ((h.seen_iff y).2 hy)
  · intro y
    have hy := h.seen_iff y
    simp only [List.mem_append, List.mem_cons, List.not_mem_nil, or_false] at hy ⊢
    tauto
  · intro y hy z hz
    rcases List.mem_append.1 hy with hy | hy
    · exact List.mem_append_right _ (h.closed y hy z hz)
    · rw [List.mem_singleton.1 hy] at hz
      exact mem_firstSeen_append hz seen
  · intro y hy
    rcases List.mem_append.1 hy with hy | hy
    · exact (h.reached x hx).tail (mem_firstSeen.1 hy).1
    · exact h.reached y hy
  · intro y hy
    rcases List.mem_append.1 hy with hy | hy
    · exact hnext x (h.within x hx) y (mem_firstSeen.1 hy).1
    · exact h.within y hy
  · exact List.mem_append_right _ h.start_mem

/-- A search that is allowed enough visits ends with an empty queue. -/
theorem completes
    (hnext : ∀ y ∈ points, ∀ z ∈ next y, z ∈ points)
    {bound : Nat}
    (h : Frontier next start points visited queue seen)
    (hbound : points.length ≤ bound + visited.length) :
    Completes next queue seen (visitQueue next bound queue seen) := by
  induction bound generalizing visited queue seen with
  | zero =>
      have hlength := h.length_le
      have hqueue : queue = [] := by
        rw [← List.length_eq_zero_iff]
        omega
      subst hqueue
      exact .done seen
  | succ bound ih =>
      cases queue with
      | nil =>
          exact .done seen
      | cons x queue =>
          have hlength : points.length ≤ bound + (visited ++ [x]).length := by
            rw [List.length_append, List.length_singleton]
            omega
          exact .visit (ih (h.visit hnext) hlength)

end Frontier

/-- A search from a start stays among points, and its bound allows a visit for each of them. -/
structure Confined
    (next : α → List α)
    (start : α)
    (points : List α)
    (bound : Nat) : Prop where
  start_mem : start ∈ points
  closed : ∀ y ∈ points, ∀ z ∈ next y, z ∈ points
  length_le : points.length ≤ bound

namespace Confined

variable [DecidableEq α] {next : α → List α} {start : α} {points : List α} {bound : Nat}

/-- A search that is allowed enough visits is not cut short. -/
theorem completes_breadthFirst (hsearch : Confined next start points bound) :
    Completes next [start] [start] (breadthFirst next bound start) := by
  have hbegin : Frontier next start points [] [start] [start] :=
    Frontier.begin hsearch.start_mem
  have hlength : points.length ≤ bound + ([] : List α).length := by
    simpa using hsearch.length_le
  exact hbegin.completes hsearch.closed hlength

/-- The state of such a search when it has ended. -/
theorem frontier_breadthFirst (hsearch : Confined next start points bound) :
    ∃ marked, Frontier next start points (breadthFirst next bound start) [] marked := by
  have hbegin : Frontier next start points [] [start] [start] :=
    Frontier.begin hsearch.start_mem
  exact hsearch.completes_breadthFirst.preserves
    (fun _ _ _ _ h => h.visit hsearch.closed) hbegin

theorem nodup_breadthFirst (hsearch : Confined next start points bound) :
    (breadthFirst next bound start).Nodup := by
  obtain ⟨marked, h⟩ := hsearch.frontier_breadthFirst
  simpa using h.nodup

/-- The search visits exactly the points that can be reached. -/
theorem mem_breadthFirst_iff
    (hsearch : Confined next start points bound)
    {x : α} :
    x ∈ breadthFirst next bound start ↔ Reaches next start x := by
  obtain ⟨marked, h⟩ := hsearch.frontier_breadthFirst
  have hmarked (y : α) : y ∈ marked ↔ y ∈ breadthFirst next bound start := by
    simpa using h.seen_iff y
  constructor
  · intro hx
    exact h.reached x ((hmarked x).2 hx)
  · intro hx
    induction hx with
    | refl =>
        exact (hmarked start).1 h.start_mem
    | tail _ hstep ih =>
        exact (hmarked _).1 (h.closed _ ih _ hstep)

end Confined

end GotoAutomaton
