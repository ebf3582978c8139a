import GotoAutomaton.Proofs.Shift.Registry
import GotoAutomaton.Proofs.Table.Growth

/-!
# Shifted tables

A table compares identifiers and tags, finds rows by them and never orders them, so that it is
enough that different tags are shifted to different ones.

Main statements: look-ups and enumerations of a shifted table (`lookup_shift`,
`transitionsFrom_shift`, `origins_shift`), the obstacles that it raises (`obstacle?_shift`), and
that insertions commute with shifting (`insert_shift`, `insertAll_shift`).
-/

namespace GotoAutomaton

variable {σ : Type} (k : UInt32)

@[simp] theorem Transition.text_shift
    [Symbol σ]
    (t : Transition σ) :
    (t.shift k).text = t.text := by
  rfl

@[simp] theorem Transition.endpoints_shift (t : Transition σ) :
    (t.shift k).endpoints = t.endpoints.map (StateId.shift k) := by
  rfl

def Row.shift (row : Row σ) : Row σ :=
  ⟨row.order, row.targets.rename id Function.injective_id (StateId.shift k)⟩

def Table.shift (T : Table σ) : Table σ where
  transitions := T.transitions.map (Transition.shift k)
  rows := T.rows.rename (StateId.shift k) (StateId.shift_injective k) (Row.shift k)
  owner := T.owner.map (Tag.shift k)
  frozen := T.frozen

/-- The ends of all transitions can be shifted. -/
def Table.Fits (T : Table σ) : Prop :=
  ∀ t ∈ T.toList, ∀ x ∈ t.endpoints, x.Fits k

def Outcome.shift {α : Type} (o : Outcome σ α) : Outcome σ α :=
  ⟨o.table.shift k, o.result.mapError (Error.shift k), o.events.map (Event.shift k)⟩

def Table.Progress.shift (p : Table.Progress σ) : Table.Progress σ where
  table := p.table.shift k
  added := p.added
  refused := p.refused.map (Conflict.shift k)
  stopped := p.stopped.map (Error.shift k)
  events := p.events.map (Event.shift k)

theorem Row.get?_targets_shift
    [DecidableEq σ]
    (row : Row σ)
    (a : σ) :
    (row.shift k).targets.get? a = (row.targets.get? a).map (StateId.shift k) :=
  OrderedMap.get?_rename Function.injective_id (StateId.shift k) row.targets a

theorem Row.add_shift
    [DecidableEq σ]
    (row : Row σ)
    (position : Nat)
    (a : σ)
    (y : StateId) :
    (row.shift k).add position a (y.shift k) = (row.add position a y).shift k := by
  have htargets := OrderedMap.insert_rename Function.injective_id (StateId.shift k) row.targets a y
  exact congrArg (Row.mk (row.order.push position)) htargets

namespace Table

theorem empty_shift (owner : Option Tag) :
    (empty (owner.map (Tag.shift k)) : Table σ) = (empty owner).shift k := by
  simp [empty, shift]

theorem ownedBy_shift (r : Registry) : (ownedBy (r.shift k) : Table σ) = (ownedBy r).shift k :=
  empty_shift k (some r.tag)

theorem withConfig_shift
    (r : Registry)
    (c : TableConfig) :
    (withConfig (r.shift k) c : Table σ) = (withConfig r c).shift k := by
  rw [withConfig, withConfig, ← empty_shift]
  split <;> rfl

@[simp] theorem toList_shift (T : Table σ) :
    (T.shift k).toList = T.toList.map (Transition.shift k) := by
  simp [toList, shift]

@[simp] theorem size_shift (T : Table σ) : (T.shift k).size = T.size := by
  simp [size, shift]

@[simp] theorem frozen_shift (T : Table σ) : (T.shift k).frozen = T.frozen := by
  rfl

@[simp] theorem owner_shift (T : Table σ) : (T.shift k).owner = T.owner.map (Tag.shift k) := by
  rfl

@[simp] theorem get?_rows_shift
    (T : Table σ)
    (x : StateId) :
    (T.shift k).rows.get? (x.shift k) = (T.rows.get? x).map (Row.shift k) :=
  OrderedMap.get?_rename (StateId.shift_injective k) (Row.shift k) T.rows x

@[simp] theorem transitionsFrom_shift
    (T : Table σ)
    (x : StateId) :
    (T.shift k).transitionsFrom (x.shift k) = (T.transitionsFrom x).map (Transition.shift k) := by
  rw [transitionsFrom, transitionsFrom, get?_rows_shift]
  cases T.rows.get? x with
  | none =>
      rfl
  | some row =>
      simp [shift, Row.shift, List.map_filterMap]

@[simp] theorem symbolsFrom_shift
    (T : Table σ)
    (x : StateId) :
    (T.shift k).symbolsFrom (x.shift k) = T.symbolsFrom x := by
  simp [symbolsFrom, Transition.shift, Function.comp_def]

@[simp] theorem origins_shift (T : Table σ) :
    (T.shift k).origins = T.origins.map (StateId.shift k) := by
  have horigins : (T.shift k).toList.map Transition.origin =
      (T.toList.map Transition.origin).map (StateId.shift k) := by
    simp [Transition.shift, Function.comp_def]
  rw [origins, horigins, distinct_map (StateId.shift_injective k), origins]

@[simp] theorem text_shift
    [Symbol σ]
    (T : Table σ) :
    (T.shift k).text = T.text := by
  have hline : (fun t : Transition σ => "  " ++ t.text ++ "\n") ∘ Transition.shift k =
      fun t => "  " ++ t.text ++ "\n" :=
    rfl
  unfold text
  rw [frozen_shift, size_shift, toList_shift, List.map_map, hline]

theorem freeze_shift (T : Table σ) :
    (T.shift k).freeze = (T.freeze.1.shift k, T.freeze.2.map (Event.shift k)) := by
  rw [freeze, freeze, frozen_shift]
  split
  · rfl
  · simp [shift, size, Event.shift]

/-- The first foreign end is at the same place. -/
theorem foreign?_shift
    (owner : Tag)
    (t : Transition σ) :
    foreign? (owner.shift k) (t.shift k) = (foreign? owner t).map (StateId.shift k) := by
  have hforeign : (fun x : StateId => decide (x.automaton ≠ owner.shift k)) ∘ StateId.shift k =
      fun x => decide (x.automaton ≠ owner) := by
    funext x
    simp [StateId.shift]
  rw [foreign?, foreign?, Transition.endpoints_shift, List.find?_map, hforeign]

theorem obstacle?_shift
    [Symbol σ]
    (T : Table σ)
    (t : Transition σ) :
    (T.shift k).obstacle? (t.shift k) =
      (T.obstacle? t).map fun o => (o.1.shift k, o.2.map (Event.shift k)) := by
  cases hfrozen : T.frozen with
  | true =>
      simp [obstacle?, hfrozen, Error.shift, Transition.shift]
  | false =>
      cases howner : T.owner with
      | none =>
          simp [obstacle?, hfrozen, howner]
      | some owner =>
          simp [obstacle?, hfrozen, howner, foreign?_shift, Error.shift, Event.shift,
            Function.comp_def]

variable [DecidableEq σ]

@[simp] theorem lookup_shift
    (T : Table σ)
    (x : StateId)
    (a : σ) :
    (T.shift k).lookup (x.shift k) a = (T.lookup x a).map (StateId.shift k) := by
  rw [lookup, lookup, get?_rows_shift]
  cases T.rows.get? x with
  | none =>
      rfl
  | some row =>
      exact row.get?_targets_shift k a

@[simp] theorem contains_shift
    (T : Table σ)
    (t : Transition σ) :
    (T.shift k).contains (t.shift k) = T.contains t := by
  have hlookup := T.lookup_shift k t.origin t.symbol
  simp only [contains, Transition.shift, hlookup]
  cases T.lookup t.origin t.symbol <;> simp

theorem push_shift
    (T : Table σ)
    (t : Transition σ) :
    (T.shift k).push (t.shift k) = (T.push t).shift k := by
  have hrow : ((T.shift k).rows.get? (t.shift k).origin).getD .empty =
      ((T.rows.get? t.origin).getD .empty).shift k := by
    rw [Transition.shift, get?_rows_shift]
    cases T.rows.get? t.origin <;> rfl
  have hrows := OrderedMap.insert_rename (StateId.shift_injective k) (Row.shift k) T.rows t.origin
    (((T.rows.get? t.origin).getD .empty).add T.size t.symbol t.destination)
  rw [push, hrow, size_shift, push]
  simp only [shift, Transition.shift, Row.add_shift, Array.map_push]
  rw [hrows]

variable [Symbol σ]

/-- An insertion comes to the same, whether tags are shifted before or after it. -/
theorem insert_shift
    (T : Table σ)
    (t : Transition σ) :
    (T.shift k).insert (t.shift k) = (T.insert t).shift k := by
  have hobstacle := T.obstacle?_shift k t
  have hlookup : (T.shift k).lookup (t.shift k).origin (t.shift k).symbol =
      (T.lookup t.origin t.symbol).map (StateId.shift k) :=
    T.lookup_shift k t.origin t.symbol
  have hinsertion := insertion T t
  generalize T.insert t = o at hinsertion
  cases hinsertion with
  | rejected h =>
      rw [h, Option.map_some] at hobstacle
      rw [insert_of_obstacle hobstacle]
      rfl
  | new hclear hnone =>
      rw [hclear, Option.map_none] at hobstacle
      rw [hnone, Option.map_none] at hlookup
      rw [insert_eq_enter hobstacle, enter_of_lookup_eq_none hlookup, push_shift]
      rfl
  | known hclear hsame =>
      rw [hclear, Option.map_none] at hobstacle
      rw [hsame, Option.map_some] at hlookup
      rw [insert_eq_enter hobstacle, enter_of_lookup_eq_destination hlookup]
      rfl
  | refused hclear hother hne =>
      rw [hclear, Option.map_none] at hobstacle
      rw [hother, Option.map_some] at hlookup
      have hne' := fun h => hne ((StateId.shift_inj k).1 h)
      rw [insert_eq_enter hobstacle, enter_of_lookup_eq_some hlookup hne']
      rfl

theorem insertEach_shift
    (T : Table σ)
    (batch : List (Transition σ)) :
    (T.shift k).insertEach (batch.map (Transition.shift k)) = (T.insertEach batch).shift k := by
  induction batch generalizing T with
  | nil =>
      rfl
  | cons t ts ih =>
      rw [List.map_cons, insertEach, insertEach, insert_shift]
      obtain ⟨U, result, events⟩ := T.insert t
      cases result with
      | ok new =>
          simp [Outcome.shift, Except.mapError, ih, Progress.shift]
      | error e =>
          cases e <;> simp [Outcome.shift, Except.mapError, Error.shift, ih, Progress.shift]

theorem insertAll_shift
    (T : Table σ)
    (batch : List (Transition σ)) :
    (T.shift k).insertAll (batch.map (Transition.shift k)) = (T.insertAll batch).shift k := by
  have hobstacle : (batch.map (Transition.shift k)).findSome? (T.shift k).obstacle? =
      (batch.findSome? T.obstacle?).map fun o => (o.1.shift k, o.2.map (Event.shift k)) := by
    rw [List.findSome?_map, List.map_findSome?]
    exact congrArg (batch.findSome? ·) (funext fun t => T.obstacle?_shift k t)
  rw [insertAll, insertAll, hobstacle, insertEach_shift]
  cases batch.findSome? T.obstacle? with
  | some obstacle =>
      rfl
  | none =>
      obtain ⟨U, added, refused, stopped, events⟩ := T.insertEach batch
      cases stopped with
      | some e =>
          rfl
      | none =>
          cases refused <;> simp [Progress.shift, Outcome.shift, Except.mapError, Error.shift,
            Event.shift]

omit [DecidableEq σ] [Symbol σ] in
theorem fits_empty (owner : Option Tag) : (empty owner : Table σ).Fits k := by
  intro t ht
  cases ht

variable {k}

/-- A table takes nothing in but what is handed to it. -/
theorem Fits.change
    {T : Table σ}
    (hT : T.Fits k)
    {c : Change σ}
    (hc : ∀ t ∈ c.transitions, ∀ x ∈ t.endpoints, x.Fits k) :
    (T.change c).1.Fits k := by
  obtain ⟨new, hsub, hlist⟩ := T.exists_toList_change c
  intro t ht
  rw [hlist, List.mem_append] at ht
  rcases ht with ht | ht
  · exact hT t ht
  · exact hc t (hsub.mem ht)

end Table
end GotoAutomaton
