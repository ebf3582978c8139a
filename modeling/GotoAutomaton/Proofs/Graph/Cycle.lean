import GotoAutomaton.Proofs.Graph.Enumeration
import GotoAutomaton.Proofs.Graph.Reach
import Mathlib.Data.List.Chain
import Mathlib.Data.List.Nodup
import Mathlib.Order.WellFoundedSet

/-!
# Cycles

A depth-first search has a path, which is being explored, and points behind it, which are explored.
A point is explored when all its successors are, so the explored points, the latest first, are
listed in such an order that every successor of a point stands behind it, and a walk among them
cannot come back to where it started.  An edge that leads back into the path closes a cycle.  The
path holds no point twice, so a bound above the number of points is never met.

In a graph without cycles the paths that are not empty order the states strictly.  There are
finitely many states, so going on along transitions comes to a last state, from which no transition
leads, and going back comes to a first one.

Main statements: what a search that goes through adds (`depthFirst_eq_some`), what a search that
gives up has met (`depthFirst_eq_none`), and that a built graph has cycles in the sense of the
search if and only if it has a path that is not empty and leads back (`hasCycles_build`).  From the
start states of a graph without cycles all its states are reached, and from each of them a terminal
state; a graph that lacks one of these has cycles (`spanned_build`).
-/

namespace GotoAutomaton

section Search

variable {α : Type} {next : α → List α}

/-- Points listed once each, with all their successors behind them. -/
inductive Descending (next : α → List α) : List α → Prop
  | nil : Descending next []
  | cons {x : α} {xs : List α} :
      x ∉ xs → (∀ y ∈ next x, y ∈ xs) → Descending next xs → Descending next (x :: xs)

namespace Descending

variable {x y : α} {xs : List α} {k : Nat}

theorem mem_of_mem_next
    (h : Descending next xs)
    (hx : x ∈ xs)
    (hy : y ∈ next x) :
    y ∈ xs := by
  induction h with
  | nil =>
      cases hx
  | cons _ hnext _ ih =>
      rcases List.mem_cons.1 hx with rfl | hx
      · exact List.mem_cons_of_mem _ (hnext y hy)
      · exact List.mem_cons_of_mem _ (ih hx)

/-- Walks stay among the listed points. -/
theorem mem_of_walk
    (h : Descending next xs)
    (hx : x ∈ xs)
    (hwalk : Walk next x k y) :
    y ∈ xs := by
  induction hwalk with
  | nil =>
      exact hx
  | concat _ hstep ih =>
      exact h.mem_of_mem_next ih hstep

/-- No walk leads from a listed point back to it: its first step goes behind the point, and nothing
leads from there to the point. -/
theorem not_walk
    (h : Descending next xs)
    (hx : x ∈ xs) :
    ¬ Walk next x (k + 1) x := by
  induction h with
  | nil =>
      cases hx
  | @cons z zs hz hnext hrest ih =>
      intro hwalk
      rcases List.mem_cons.1 hx with rfl | hx
      · obtain ⟨y, hy, hback⟩ := hwalk.exists_head
        exact hz (hrest.mem_of_walk (hnext y hy) hback)
      · exact ih hx hwalk

end Descending

/-- A path that is being explored, the latest point first: each point is a successor of the point
behind it. -/
abbrev Trail (next : α → List α) (path : List α) : Prop :=
  path.IsChain fun x y => x ∈ next y

/-- From every point of a path a walk leads to the latest one. -/
theorem Trail.exists_walk
    {x y : α}
    {path : List α}
    (h : Trail next (x :: path))
    (hy : y ∈ path) :
    ∃ k, Walk next y (k + 1) x := by
  induction path generalizing x with
  | nil =>
      cases hy
  | cons z path ih =>
      obtain ⟨hstep, hrest⟩ := List.isChain_cons_cons.1 h
      rcases List.mem_cons.1 hy with rfl | hy
      · exact ⟨0, .single hstep⟩
      · obtain ⟨k, hwalk⟩ := ih hrest hy
        exact ⟨k + 1, hwalk.concat hstep⟩

/-- What exploring from within a path adds to the explored points: their order stays, nothing is
lost, and nothing of the path is added. -/
structure Explores (next : α → List α) (path explored explored' : List α) : Prop where
  descending : Descending next explored'
  kept : ∀ x ∈ explored, x ∈ explored'
  avoids : ∀ x ∈ path, x ∈ explored' → x ∈ explored

theorem Explores.refl
    {path explored : List α}
    (h : Descending next explored) :
    Explores next path explored explored where
  descending := h
  kept _ hx := hx
  avoids _ _ hx := hx

theorem Explores.trans
    {path xs ys zs : List α}
    (hxy : Explores next path xs ys)
    (hyz : Explores next path ys zs) :
    Explores next path xs zs where
  descending := hyz.descending
  kept x hx := hyz.kept x (hxy.kept x hx)
  avoids x hx hz := hxy.avoids x hx (hyz.avoids x hx hz)

/-- Exploring one point after the other. -/
theorem Explores.foldlM
    {path : List α}
    {explore : List α → α → Option (List α)}
    {points explored explored' : List α}
    (hexplore : ∀ e x e', x ∈ points → Descending next e → explore e x = some e' →
      Explores next path e e' ∧ x ∈ e')
    (hexplored : Descending next explored)
    (h : points.foldlM explore explored = some explored') :
    Explores next path explored explored' ∧ ∀ x ∈ points, x ∈ explored' := by
  induction points generalizing explored with
  | nil =>
      rw [List.foldlM_nil] at h
      cases h
      exact ⟨.refl hexplored, by simp⟩
  | cons x points ih =>
      rw [List.foldlM_cons, Option.bind_eq_bind, Option.bind_eq_some_iff] at h
      obtain ⟨e, he, hrest⟩ := h
      obtain ⟨hfirst, hx⟩ := hexplore explored x e List.mem_cons_self hexplored he
      obtain ⟨hothers, hmem⟩ :=
        ih (fun e y e' hy => hexplore e y e' (List.mem_cons_of_mem _ hy)) hfirst.descending hrest
      refine ⟨hfirst.trans hothers, ?_⟩
      intro y hy
      rcases List.mem_cons.1 hy with rfl | hy
      · exact hothers.kept y hx
      · exact hmem y hy

/-- If exploring one point after the other gives up, it does so at one of the points. -/
theorem exists_eq_none_of_foldlM
    {explore : List α → α → Option (List α)}
    {points explored : List α}
    (h : points.foldlM explore explored = none) :
    ∃ x ∈ points, ∃ e, explore e x = none := by
  induction points generalizing explored with
  | nil =>
      cases h
  | cons x points ih =>
      rw [List.foldlM_cons, Option.bind_eq_bind, Option.bind_eq_none_iff] at h
      cases he : explore explored x with
      | none =>
          exact ⟨x, List.mem_cons_self, explored, he⟩
      | some e =>
          obtain ⟨y, hy, hnone⟩ := ih (h e he)
          exact ⟨y, List.mem_cons_of_mem _ hy, hnone⟩

variable [DecidableEq α]

/-- A search that goes through has explored the point, and nothing of the path. -/
theorem depthFirst_eq_some
    {bound : Nat}
    {path explored explored' : List α}
    {x : α}
    (hexplored : Descending next explored)
    (h : depthFirst next bound path explored x = some explored') :
    Explores next path explored explored' ∧ x ∈ explored' := by
  induction bound generalizing path explored x explored' with
  | zero =>
      cases h
  | succ bound ih =>
      rw [depthFirst] at h
      split_ifs at h with hpath hmem
      · cases h
        exact ⟨.refl hexplored, hmem⟩
      · obtain ⟨below, hbelow, rfl⟩ := Option.map_eq_some_iff.1 h
        obtain ⟨hexplores, hnext⟩ := Explores.foldlM (fun _ _ _ _ he => ih he) hexplored hbelow
        have hx : x ∉ below := fun hx => hmem (hexplores.avoids x List.mem_cons_self hx)
        refine ⟨⟨.cons hx hnext hexplores.descending, ?_, ?_⟩, List.mem_cons_self⟩
        · intro y hy
          exact List.mem_cons_of_mem _ (hexplores.kept y hy)
        · intro y hy hy'
          rcases List.mem_cons.1 hy' with rfl | hy'
          · exact absurd hy hpath
          · exact hexplores.avoids y (List.mem_cons_of_mem _ hy) hy'

/-- A search that gives up has met a point from which a walk leads back. -/
theorem depthFirst_eq_none
    {points : List α}
    (hclosed : ∀ y ∈ points, ∀ z ∈ next y, z ∈ points)
    {bound : Nat}
    {path explored : List α}
    {x : α}
    (htrail : Trail next (x :: path))
    (hnodup : path.Nodup)
    (hpath : ∀ y ∈ x :: path, y ∈ points)
    (hbound : points.length < bound + path.length)
    (h : depthFirst next bound path explored x = none) :
    ∃ y ∈ points, ∃ k, Walk next y (k + 1) y := by
  induction bound generalizing path explored x with
  | zero =>
      have hsubset : path ⊆ points := fun y hy => hpath y (List.mem_cons_of_mem _ hy)
      have hlength := (hnodup.subperm hsubset).length_le
      omega
  | succ bound ih =>
      rw [depthFirst] at h
      split_ifs at h with hx hmem
      · obtain ⟨k, hwalk⟩ := htrail.exists_walk hx
        exact ⟨x, hpath x List.mem_cons_self, k, hwalk⟩
      · rw [Option.map_eq_none_iff] at h
        obtain ⟨y, hy, e, hnone⟩ := exists_eq_none_of_foldlM h
        refine ih (List.isChain_cons_cons.2 ⟨hy, htrail⟩) (hnodup.cons hx) ?_ ?_ hnone
        · intro z hz
          rcases List.mem_cons.1 hz with rfl | hz
          · exact hclosed x (hpath x List.mem_cons_self) z hy
          · exact hpath z hz
        · rw [List.length_cons]
          omega

/-- Searches from all points, one after the other, give up if and only if a walk leads from one of
the points back to it. -/
theorem foldlM_depthFirst_eq_none_iff
    {points : List α}
    (hclosed : ∀ y ∈ points, ∀ z ∈ next y, z ∈ points)
    {bound : Nat}
    (hbound : points.length < bound) :
    points.foldlM (depthFirst next bound []) [] = none ↔
      ∃ x ∈ points, ∃ k, Walk next x (k + 1) x := by
  constructor
  · intro h
    obtain ⟨x, hx, e, hnone⟩ := exists_eq_none_of_foldlM h
    refine depthFirst_eq_none hclosed (List.isChain_singleton x) List.nodup_nil ?_ ?_ hnone
    · intro y hy
      rwa [List.mem_singleton.1 hy]
    · rwa [List.length_nil, Nat.add_zero]
  · rintro ⟨x, hx, k, hwalk⟩
    cases h : points.foldlM (depthFirst next bound []) [] with
    | none =>
        rfl
    | some explored =>
        obtain ⟨hexplores, hmem⟩ := Explores.foldlM (fun _ _ _ _ he => depthFirst_eq_some he) .nil h
        exact absurd hwalk (hexplores.descending.not_walk (hmem x hx))

end Search

namespace Graph

variable {σ : Type} {g : Graph σ}

theorem Faithful.hasCycles_iff
    (hg : g.Faithful) :
    g.hasCycles = true ↔ ∃ x k, Path g.transitions x (k + 1) x := by
  have hbound : (List.range g.nodes.size).length < g.nodes.size + 1 := by
    rw [List.length_range]
    omega
  rw [hasCycles, Option.isNone_iff_eq_none,
    foldlM_depthFirst_eq_none_iff hg.mem_range_of_mem_successors hbound]
  constructor
  · rintro ⟨n, hn, k, hwalk⟩
    obtain ⟨x, hx⟩ := hg.exists_node?_eq_some (List.mem_range.1 hn)
    exact ⟨x, k, (hg.walk_iff_path hx hx).1 hwalk⟩
  · rintro ⟨x, k, hpath⟩
    obtain ⟨n, hx⟩ := hg.exists_node?_of_path hpath
    exact ⟨n, List.mem_range.2 (hg.node?_lt hx), k, (hg.walk_iff_path hx hx).2 hpath⟩

/-- The search finds a cycle in a built graph if and only if a path of added transitions that is not
empty leads from some state back to it. -/
theorem hasCycles_build (additions : List (Addition σ)) :
    (build additions).hasCycles = true ↔
      ∃ x k, Path (addedTransitions additions) x (k + 1) x := by
  rw [(faithful_build additions).hasCycles_iff, transitions_build]

/-- Neither parallel transitions nor paths that meet again close a cycle; a transition from a state
to itself does. -/
example :
    let x (i : Nat) : StateId := ⟨.first, i⟩
    let meeting : List (Addition Char) := [.transition ⟨x 0, 'a', x 1⟩, .transition ⟨x 0, 'b', x 1⟩,
      .transition ⟨x 0, 'c', x 2⟩, .transition ⟨x 2, 'a', x 1⟩]
    (build meeting).hasCycles = false ∧
      (build (meeting ++ [.transition ⟨x 1, 'a', x 1⟩])).hasCycles = true := by
  decide

end Graph

/-- In a strict order every element of a finite list comes before a last one, or is one itself. -/
theorem exists_last
    {α : Type}
    (r : α → α → Prop)
    [IsStrictOrder α r]
    {xs : List α}
    {x : α}
    (hx : x ∈ xs) :
    ∃ y ∈ xs, (y = x ∨ r x y) ∧ ∀ z ∈ xs, ¬ r y z := by
  have hwell : {y | y ∈ xs}.WellFoundedOn (Function.swap r) := xs.finite_toSet.wellFoundedOn
  refine hwell.induction (P := fun x => ∃ y ∈ xs, (y = x ∨ r x y) ∧ ∀ z ∈ xs, ¬ r y z) hx ?_
  intro x hx ih
  by_cases hlast : ∃ z ∈ xs, r x z
  · obtain ⟨z, hz, hxz⟩ := hlast
    obtain ⟨y, hy, hzy, hend⟩ := ih z hz hxz
    refine ⟨y, hy, Or.inr ?_, hend⟩
    rcases hzy with rfl | hzy
    · exact hxz
    · exact trans_of r hxz hzy
  · exact ⟨x, hx, Or.inl rfl, fun z hz hxz => hlast ⟨z, hz, hxz⟩⟩

namespace Graph

variable {σ : Type} {g : Graph σ} {x : StateId}

/-- A path that is not empty leads from one state to the other. -/
def Before (ts : List (Transition σ)) (x y : StateId) : Prop :=
  ∃ k, Path ts x (k + 1) y

/-- Without cycles the states are strictly ordered. -/
theorem Faithful.isStrictOrder_before
    (hg : g.Faithful)
    (hcycles : g.hasCycles = false) :
    IsStrictOrder StateId (Before g.transitions) where
  irrefl := by
    rintro x ⟨k, hpath⟩
    rw [hg.hasCycles_iff.2 ⟨x, k, hpath⟩] at hcycles
    cases hcycles
  trans := by
    rintro x y z ⟨k, hxy⟩ ⟨l, hyz⟩
    refine ⟨k + 1 + l, ?_⟩
    rw [Nat.add_assoc]
    exact hxy.append hyz

theorem Faithful.mem_reachableFrom_iff_before
    (hg : g.Faithful)
    {y : StateId} :
    y ∈ g.reachableFrom x ↔ y = x ∨ Before g.transitions x y := by
  rw [hg.mem_reachableFrom_iff, Path.exists_iff, Before]

theorem Faithful.exists_terminal
    (hg : g.Faithful)
    (hcycles : g.hasCycles = false)
    (hx : x ∈ g.states) :
    ∃ z ∈ g.terminalStates, z ∈ g.reachableFrom x := by
  have hstrict := hg.isStrictOrder_before hcycles
  obtain ⟨z, hz, hxz, hlast⟩ := exists_last (Before g.transitions) hx
  refine ⟨z, ?_, hg.mem_reachableFrom_iff_before.2 hxz⟩
  rw [hg.mem_terminalStates_iff, hg.contains_iff]
  refine ⟨hz, ?_⟩
  rintro t ht rfl
  exact hlast t.destination (hg.mem_states_of_mem_transitions ht).2 ⟨0, .single ht⟩

/-- Going back along transitions ends at a start state. -/
theorem Faithful.exists_start
    (hg : g.Faithful)
    (hcycles : g.hasCycles = false)
    (hx : x ∈ g.states) :
    ∃ a ∈ g.startStates, x ∈ g.reachableFrom a := by
  have hstrict := hg.isStrictOrder_before hcycles
  obtain ⟨a, ha, hxa, hfirst⟩ := exists_last (Function.swap (Before g.transitions)) hx
  refine ⟨a, ?_, ?_⟩
  · rw [hg.mem_startStates_iff, hg.contains_iff]
    refine ⟨ha, ?_⟩
    rintro t ht rfl
    exact hfirst t.origin (hg.mem_states_of_mem_transitions ht).1 ⟨0, .single ht⟩
  · rw [hg.mem_reachableFrom_iff_before]
    exact hxa.imp_left Eq.symm

/-- A built graph that has no cycles is spanned from both sides: every state that it contains is
found from one of its start states, and one of its terminal states is found from every state that it
contains.  So a graph with a state, but without start states or without terminal states, has
cycles. -/
theorem spanned_build (additions : List (Addition σ)) :
    let g := build additions
    (g.hasCycles = false → ∀ x, g.contains x = true →
      (∃ a ∈ g.startStates, x ∈ g.reachableFrom a) ∧
        ∃ z ∈ g.terminalStates, z ∈ g.reachableFrom x) ∧
    ((∃ x, g.contains x = true) → g.startStates = [] ∨ g.terminalStates = [] →
      g.hasCycles = true) := by
  intro g
  have hg : g.Faithful := faithful_build additions
  have hspanned (hcycles : g.hasCycles = false) (x : StateId) (hx : g.contains x = true) :
      (∃ a ∈ g.startStates, x ∈ g.reachableFrom a) ∧
        ∃ z ∈ g.terminalStates, z ∈ g.reachableFrom x :=
    ⟨hg.exists_start hcycles (hg.contains_iff.1 hx),
      hg.exists_terminal hcycles (hg.contains_iff.1 hx)⟩
  refine ⟨hspanned, ?_⟩
  rintro ⟨x, hx⟩ hempty
  by_contra hcycles
  rw [Bool.not_eq_true] at hcycles
  obtain ⟨⟨a, ha, _⟩, ⟨z, hz, _⟩⟩ := hspanned hcycles x hx
  rcases hempty with hempty | hempty
  · rw [hempty] at ha
    cases ha
  · rw [hempty] at hz
    cases hz

/-- Two paths that part and meet again, and a state that leads to itself only. -/
theorem spanned_build_diamond :
    let x (i : Nat) : StateId := ⟨.first, i⟩
    let z : StateId := ⟨Tag.first.next, 0⟩
    let diamond : Graph Char := build [.transition ⟨x 0, 'a', x 1⟩, .transition ⟨x 0, 'b', x 2⟩,
      .transition ⟨x 1, 'c', x 3⟩, .transition ⟨x 2, 'c', x 3⟩]
    let loop : Graph Char := build [.transition ⟨z, 'a', z⟩]
    (diamond.hasCycles = false ∧ diamond.contains (x 2) = true ∧
      (∃ a ∈ diamond.startStates, x 2 ∈ diamond.reachableFrom a) ∧
        ∃ y ∈ diamond.terminalStates, y ∈ diamond.reachableFrom (x 2)) ∧
    loop.contains z = true ∧ loop.startStates = [] ∧ loop.hasCycles = true := by
  intro x z diamond loop
  have hacyclic : diamond.hasCycles = false := by decide
  have hx : diamond.contains (x 2) = true := by decide
  have hz : loop.contains z = true := by decide
  have hstart : loop.startStates = [] := by
    have hfaithful : loop.Faithful := faithful_build _
    refine List.eq_nil_iff_forall_not_mem.2 ?_
    intro y hy
    obtain ⟨hcontains, hincoming⟩ := hfaithful.mem_startStates_iff.1 hy
    rw [hfaithful.contains_iff] at hcontains
    exact hincoming ⟨z, 'a', z⟩ (by decide) (List.mem_singleton.1 hcontains).symm
  refine ⟨⟨hacyclic, hx, ?_⟩, hz, hstart, ?_⟩
  · exact (spanned_build _).1 hacyclic (x 2) hx
  · exact (spanned_build _).2 ⟨z, hz⟩ (Or.inl hstart)

end Graph

end GotoAutomaton
