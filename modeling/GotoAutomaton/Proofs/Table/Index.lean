import GotoAutomaton.Proofs.Table.Step
import Mathlib.Data.List.Basic

/-!
# The index of a table

A table keeps its transitions in one list and finds them through an index.  In a reachable table the
index is determined by the list: there is a row for every origin and for nothing else, in the order
in which the origins were first seen; a row knows the positions of its transitions in ascending
order, and the symbols of these transitions, each with its destination.

Main statements: every reachable table is indexed in this way (`Reachable.indexed`), what is then
read off the index is what going through the list would find (`Indexed.transitionsFrom_eq`,
`Indexed.lookup_eq`, `Indexed.lookup_eq_some_iff`), and nothing but the list, the owner and the lock
tells two such tables apart (`Indexed.ext`).
-/

namespace GotoAutomaton

/-- The elements at the positions with a property are the elements with the property. -/
theorem filterMap_getElem?_findIdxs
    {α : Type}
    (p : α → Bool)
    (xs : List α) :
    (xs.findIdxs p).filterMap (fun i => xs[i]?) = xs.filter p := by
  induction xs with
  | nil =>
      rfl
  | cons x xs ih =>
      have htail :
          (xs.findIdxs p 1).filterMap (fun i => (x :: xs)[i]?) = xs.filter p := by
        rw [List.findIdxs_start, List.filterMap_map]
        simpa [Function.comp_def] using ih
      cases hp : p x <;> simp [List.findIdxs_cons, hp, htail]

namespace Table

section Lists

variable {σ : Type}

/-- The positions of the transitions out of a state. -/
def positionsFrom (ts : List (Transition σ)) (x : StateId) : List Nat :=
  ts.findIdxs fun t => t.origin = x

/-- The symbols on which transitions lead out of a state, each with its destination. -/
def targetsFrom (ts : List (Transition σ)) (x : StateId) : List (σ × StateId) :=
  (ts.filter fun t => t.origin = x).map fun t => (t.symbol, t.destination)

theorem positionsFrom_concat
    (ts : List (Transition σ))
    (t : Transition σ)
    (x : StateId) :
    positionsFrom (ts ++ [t]) x =
      if t.origin = x then positionsFrom ts x ++ [ts.length] else positionsFrom ts x := by
  by_cases hx : t.origin = x <;> simp [positionsFrom, List.findIdxs_append, hx]

theorem targetsFrom_concat
    (ts : List (Transition σ))
    (t : Transition σ)
    (x : StateId) :
    targetsFrom (ts ++ [t]) x =
      if t.origin = x then targetsFrom ts x ++ [(t.symbol, t.destination)]
      else targetsFrom ts x := by
  by_cases hx : t.origin = x <;> simp [targetsFrom, List.filter_append, hx]

theorem mem_targetsFrom
    {ts : List (Transition σ)}
    {x y : StateId}
    {a : σ} :
    (a, y) ∈ targetsFrom ts x ↔ ⟨x, a, y⟩ ∈ ts := by
  simp only [targetsFrom, List.mem_map, List.mem_filter, decide_eq_true_eq, Prod.mk.injEq]
  constructor
  · rintro ⟨t, ⟨ht, rfl⟩, rfl, rfl⟩
    exact ht
  · intro h
    exact ⟨⟨x, a, y⟩, ⟨h, rfl⟩, rfl, rfl⟩

theorem find_targetsFrom
    [DecidableEq σ]
    (ts : List (Transition σ))
    (x : StateId)
    (a : σ) :
    OrderedMap.find a (targetsFrom ts x) =
      (ts.find? fun t => t.origin = x && t.symbol = a).map
        Transition.destination := by
  induction ts with
  | nil =>
      rfl
  | cons t ts ih =>
      by_cases hx : t.origin = x
      · by_cases ha : t.symbol = a
        · simp [targetsFrom, OrderedMap.find, hx, ha]
        · simpa [targetsFrom, OrderedMap.find, hx, ha] using ih
      · simpa [targetsFrom, hx] using ih

end Lists

variable {σ : Type}

/-- The row of a state, empty if there is none. -/
def rowOf (T : Table σ) (x : StateId) : Row σ :=
  (T.rows.get? x).getD .empty

/-- The index of the table is the one that its list of transitions asks for. -/
structure Indexed (T : Table σ) : Prop where
  /-- There is a row for every origin, in the order in which the origins were first seen. -/
  keys : T.rows.keys = T.origins
  order : ∀ x, (T.rowOf x).order.toList = positionsFrom T.toList x
  targets : ∀ x, (T.rowOf x).targets.entries = targetsFrom T.toList x

theorem transitionsFrom_eq_rowOf
    (T : Table σ)
    (x : StateId) :
    T.transitionsFrom x = (T.rowOf x).order.toList.filterMap fun i => T.toList[i]? := by
  unfold transitionsFrom rowOf
  cases T.rows.get? x <;> simp [Row.empty, toList]

theorem indexed_empty (owner : Option Tag) : (empty owner : Table σ).Indexed where
  keys := rfl
  order _ := rfl
  targets _ := rfl

theorem Indexed.freeze
    {T : Table σ}
    (hT : T.Indexed) :
    T.freeze.1.Indexed := by
  rw [freeze_eq]
  exact ⟨hT.keys, hT.order, hT.targets⟩

/-- The row of a state leads to the transitions out of it, in their order. -/
theorem Indexed.transitionsFrom_eq
    {T : Table σ}
    (hT : T.Indexed)
    (x : StateId) :
    T.transitionsFrom x = T.toList.filter fun t => t.origin = x := by
  rw [transitionsFrom_eq_rowOf, hT.order]
  exact filterMap_getElem?_findIdxs _ T.toList

/-- Two tables with one list have the same rows. -/
theorem Indexed.rowOf_eq
    {T U : Table σ}
    (hT : T.Indexed)
    (hU : U.Indexed)
    (hlist : T.toList = U.toList)
    (x : StateId) :
    T.rowOf x = U.rowOf x := by
  have horder : (T.rowOf x).order = (U.rowOf x).order := by
    rw [← Array.toList_inj, hT.order, hU.order, hlist]
  have htargets : (T.rowOf x).targets = (U.rowOf x).targets := by
    apply OrderedMap.ext_entries
    rw [hT.targets, hU.targets, hlist]
  calc
    T.rowOf x = ⟨(T.rowOf x).order, (T.rowOf x).targets⟩ := rfl
    _ = ⟨(U.rowOf x).order, (U.rowOf x).targets⟩ := by rw [horder, htargets]
    _ = U.rowOf x := rfl

theorem Indexed.get?_rows
    {T : Table σ}
    (hT : T.Indexed)
    (x : StateId) :
    T.rows.get? x = if x ∈ T.origins then some (T.rowOf x) else none := by
  rw [← hT.keys]
  split
  · next hx =>
      have hrow : T.rows.get? x ≠ none := by
        rwa [ne_eq, OrderedMap.get?_eq_none_iff, not_not]
      obtain ⟨row, hrow⟩ := Option.ne_none_iff_exists'.1 hrow
      rw [rowOf, hrow, Option.getD_some]
  · next hx =>
      exact OrderedMap.get?_eq_none_iff.2 hx

/-- An indexed table is known by its list, its owner and its lock. -/
theorem Indexed.ext
    {T U : Table σ}
    (hT : T.Indexed)
    (hU : U.Indexed)
    (hlist : T.toList = U.toList)
    (howner : T.owner = U.owner)
    (hfrozen : T.frozen = U.frozen) :
    T = U := by
  have htransitions : T.transitions = U.transitions := Array.toList_inj.1 hlist
  have horigins : T.origins = U.origins := by
    rw [origins, origins, hlist]
  have hrows : T.rows = U.rows := by
    apply OrderedMap.ext_get?
    · rw [hT.keys, hU.keys, horigins]
    · intro x
      rw [hT.get?_rows, hU.get?_rows, horigins, hT.rowOf_eq hU hlist]
  calc
    T = ⟨T.transitions, T.rows, T.owner, T.frozen⟩ := rfl
    _ = ⟨U.transitions, U.rows, U.owner, U.frozen⟩ := by
        rw [htransitions, hrows, howner, hfrozen]
    _ = U := rfl

variable [DecidableEq σ]

theorem lookup_eq_rowOf
    (T : Table σ)
    (x : StateId)
    (a : σ) :
    T.lookup x a = (T.rowOf x).targets.get? a := by
  unfold lookup rowOf
  cases T.rows.get? x <;> simp [Row.empty]

theorem rowOf_push
    (T : Table σ)
    (t : Transition σ)
    (x : StateId) :
    (T.push t).rowOf x =
      if t.origin = x then (T.rowOf x).add T.size t.symbol t.destination else T.rowOf x := by
  by_cases hx : t.origin = x
  · subst hx
    simp [push, rowOf, OrderedMap.get?_insert]
  · simp [push, rowOf, OrderedMap.get?_insert, hx]

theorem origins_push
    (T : Table σ)
    (t : Transition σ) :
    (T.push t).origins =
      if t.origin ∈ T.origins then T.origins else T.origins ++ [t.origin] := by
  simp [origins, distinct_concat, mem_distinct]

/-- A new transition extends its row as it extends the list. -/
theorem Indexed.push
    {T : Table σ}
    (hT : T.Indexed)
    {t : Transition σ}
    (hnew : T.lookup t.origin t.symbol = none) :
    (T.push t).Indexed where
  keys := by
    have hkeys : (T.push t).rows.keys =
        if t.origin ∈ T.rows.keys then T.rows.keys else T.rows.keys ++ [t.origin] :=
      OrderedMap.keys_insert T.rows t.origin _
    rw [hkeys, origins_push, hT.keys]
  order := by
    intro x
    rw [toList_push, positionsFrom_concat, rowOf_push, ← hT.order x]
    split
    · simp [Row.add, size, toList]
    · rfl
  targets := by
    intro x
    rw [toList_push, targetsFrom_concat, rowOf_push, ← hT.targets x]
    split
    · next hx =>
        subst hx
        have hsymbol : t.symbol ∉ (T.rowOf t.origin).targets.keys := by
          rw [← OrderedMap.get?_eq_none_iff, ← lookup_eq_rowOf]
          exact hnew
        exact OrderedMap.entries_insert_of_not_mem hsymbol t.destination
    · rfl

/-- Whatever happens to a table, its index stays the one that the list asks for. -/
theorem Indexed.change
    [Symbol σ]
    {T : Table σ}
    (hT : T.Indexed)
    (c : Change σ) :
    (T.change c).1.Indexed :=
  change_preserves (fun _ _ _ hnew hU => hU.push hnew) (fun _ hU => hU.freeze) T c hT

theorem Reachable.indexed
    [Symbol σ]
    {T : Table σ}
    (hT : T.Reachable) :
    T.Indexed :=
  hT.induction indexed_empty fun _ c hU => hU.change c

/-- A look-up finds the destination of the first transition with the origin and the symbol. -/
theorem Indexed.lookup_eq
    {T : Table σ}
    (hT : T.Indexed)
    (x : StateId)
    (a : σ) :
    T.lookup x a =
      (T.toList.find? fun t => t.origin = x && t.symbol = a).map
        Transition.destination := by
  rw [lookup_eq_rowOf, OrderedMap.get?, hT.targets]
  exact find_targetsFrom T.toList x a

/-- A look-up finds exactly what the list has: no transition hides behind another. -/
theorem Indexed.lookup_eq_some_iff
    {T : Table σ}
    (hT : T.Indexed)
    {x y : StateId}
    {a : σ} :
    T.lookup x a = some y ↔ ⟨x, a, y⟩ ∈ T.toList := by
  rw [lookup_eq_rowOf, OrderedMap.get?_eq_some_iff, hT.targets]
  exact mem_targetsFrom

theorem Indexed.contains_iff
    {T : Table σ}
    (hT : T.Indexed)
    (t : Transition σ) :
    T.contains t = true ↔ t ∈ T.toList := by
  simp only [contains, decide_eq_true_eq, hT.lookup_eq_some_iff]

end Table
end GotoAutomaton
