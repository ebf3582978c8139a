import GotoAutomaton.Table.History

/-!
# Steps of tables

An insertion does one of four things: it is rejected for an obstacle, it enters a new transition, it
finds the transition known, or it is refused for a conflict.  Only the second changes the table, and
it changes neither the owner nor whether the table is frozen; so whatever is an obstacle in the
course of a batch was one before the batch.

Main statements: the four cases (`insertion`), that a batch without obstacles takes its course
(`course_insertEach`) and what it comes to (`insertAll_of_clear`), and that a property kept by
entering new transitions and by freezing is kept by every change (`change_preserves`).
-/

namespace GotoAutomaton
namespace Table

variable {σ : Type}

section Push

variable [DecidableEq σ]

@[simp] theorem frozen_push
    (T : Table σ)
    (t : Transition σ) :
    (T.push t).frozen = T.frozen := by
  rfl

@[simp] theorem owner_push
    (T : Table σ)
    (t : Transition σ) :
    (T.push t).owner = T.owner := by
  rfl

@[simp] theorem size_push
    (T : Table σ)
    (t : Transition σ) :
    (T.push t).size = T.size + 1 := by
  simp [push, size]

end Push

/-- Freezing leaves everything but the lock alone. -/
theorem freeze_eq (T : Table σ) : T.freeze.1 = { T with frozen := true } := by
  unfold freeze
  split
  next h =>
      obtain ⟨transitions, rows, owner, frozen⟩ := T
      cases h
      rfl
  next =>
      rfl

variable [Symbol σ]

/-- No transition of a batch meets an obstacle. -/
def Clear (T : Table σ) (batch : List (Transition σ)) : Prop :=
  ∀ t ∈ batch, T.obstacle? t = none

theorem Clear.head
    {T : Table σ}
    {t : Transition σ}
    {ts : List (Transition σ)}
    (h : T.Clear (t :: ts)) :
    T.obstacle? t = none :=
  h t List.mem_cons_self

theorem Clear.tail
    {T : Table σ}
    {t : Transition σ}
    {ts : List (Transition σ)}
    (h : T.Clear (t :: ts)) :
    T.Clear ts :=
  fun u hu => h u (List.mem_cons_of_mem t hu)

theorem clear_append_iff
    {T : Table σ}
    {xs ys : List (Transition σ)} :
    T.Clear (xs ++ ys) ↔ T.Clear xs ∧ T.Clear ys :=
  List.forall_mem_append

variable [DecidableEq σ]

/-- A new transition is no obstacle to another and takes no obstacle away. -/
theorem obstacle?_push
    (T : Table σ)
    (t u : Transition σ) :
    (T.push t).obstacle? u = T.obstacle? u := by
  rw [obstacle?, obstacle?, frozen_push, owner_push]

theorem Clear.push
    {T : Table σ}
    {batch : List (Transition σ)}
    (h : T.Clear batch)
    (t : Transition σ) :
    (T.push t).Clear batch := by
  intro u hu
  rw [obstacle?_push]
  exact h u hu

theorem insert_of_obstacle
    {T : Table σ}
    {t : Transition σ}
    {e : Error}
    {events : List (Event σ)}
    (h : T.obstacle? t = some (e, events)) :
    T.insert t = ⟨T, .error e, events⟩ := by
  simp [insert, h]

theorem insert_eq_enter
    {T : Table σ}
    {t : Transition σ}
    (h : T.obstacle? t = none) :
    T.insert t = T.enter t := by
  simp [insert, h]

/-- What an insertion can come to. -/
inductive Insertion (T : Table σ) (t : Transition σ) : Outcome σ Bool → Prop
  /-- There is an obstacle. -/
  | rejected {e : Error} {events : List (Event σ)} :
      T.obstacle? t = some (e, events) →
      Insertion T t ⟨T, .error e, events⟩
  /-- The origin goes nowhere on the symbol yet. -/
  | new :
      T.obstacle? t = none →
      T.lookup t.origin t.symbol = none →
      Insertion T t ⟨T.push t, .ok true, [.inserting t]⟩
  /-- The table has this transition. -/
  | known :
      T.obstacle? t = none →
      T.lookup t.origin t.symbol = some t.destination →
      Insertion T t ⟨T, .ok false, [.alreadyPresent t]⟩
  /-- The origin goes elsewhere on the symbol. -/
  | refused {y : StateId} :
      T.obstacle? t = none →
      T.lookup t.origin t.symbol = some y →
      y ≠ t.destination →
      Insertion T t
        ⟨T, .error (.conflict (conflictWith t y)), [.refusing (conflictWith t y)]⟩

theorem insertion
    (T : Table σ)
    (t : Transition σ) :
    Insertion T t (T.insert t) := by
  cases hobstacle : T.obstacle? t with
  | some obstacle =>
      obtain ⟨e, events⟩ := obstacle
      rw [insert_of_obstacle hobstacle]
      exact .rejected hobstacle
  | none =>
      rw [insert_eq_enter hobstacle]
      cases hlookup : T.lookup t.origin t.symbol with
      | none =>
          rw [enter_of_lookup_eq_none hlookup]
          exact .new hobstacle hlookup
      | some y =>
          by_cases hy : y = t.destination
          · subst hy
            rw [enter_of_lookup_eq_destination hlookup]
            exact .known hobstacle hlookup
          · rw [enter_of_lookup_eq_some hlookup hy]
            exact .refused hobstacle hlookup hy

/-- A table that has the property still has it when a new transition is entered. -/
def KeptByNew (P : Table σ → Prop) : Prop :=
  ∀ T t, T.obstacle? t = none → T.lookup t.origin t.symbol = none → P T → P (T.push t)

/-- What new transitions keep, an insertion keeps. -/
theorem insert_preserves
    {P : Table σ → Prop}
    (hnew : KeptByNew P)
    {T : Table σ}
    (hT : P T)
    (t : Transition σ) :
    P (T.insert t).table := by
  have hinsertion := insertion T t
  generalize T.insert t = o at hinsertion
  cases hinsertion with
  | rejected =>
      exact hT
  | new hobstacle hlookup =>
      exact hnew T t hobstacle hlookup hT
  | known =>
      exact hT
  | refused =>
      exact hT

/-- What new transitions keep, a batch keeps as far as it comes: it goes on after a success and
after a conflict, and stops at any other error. -/
theorem insertEach_preserves
    {P : Table σ → Prop}
    (hnew : KeptByNew P)
    {T : Table σ}
    (hT : P T)
    (batch : List (Transition σ)) :
    P (T.insertEach batch).table := by
  induction batch generalizing T with
  | nil =>
      exact hT
  | cons t ts ih =>
      have hinsert := insert_preserves hnew hT t
      rw [insertEach]
      split
      · exact ih hinsert
      · exact ih hinsert
      · exact hinsert

/-- The progress of a batch, given the progress of all but its first transition. -/
def Progress.cons
    (p : Progress σ)
    (added : Nat)
    (refused : List Conflict)
    (events : List (Event σ)) :
    Progress σ :=
  ⟨p.table, added + p.added, refused ++ p.refused, p.stopped, events ++ p.events⟩

section Progress

variable (p : Progress σ) (added : Nat) (refused : List Conflict) (events : List (Event σ))

omit [Symbol σ] [DecidableEq σ]

@[simp] theorem table_cons : (p.cons added refused events).table = p.table := by
  rfl

@[simp] theorem added_cons : (p.cons added refused events).added = added + p.added := by
  rfl

@[simp] theorem refused_cons : (p.cons added refused events).refused = refused ++ p.refused := by
  rfl

@[simp] theorem stopped_cons : (p.cons added refused events).stopped = p.stopped := by
  rfl

@[simp] theorem events_cons : (p.cons added refused events).events = events ++ p.events := by
  rfl

end Progress

/-- The course of a batch that meets no obstacle, transition by transition. -/
inductive Course : Table σ → List (Transition σ) → Progress σ → Prop
  | nil {T : Table σ} :
      Course T [] ⟨T, 0, [], none, []⟩
  /-- The origin goes nowhere on the symbol yet. -/
  | new {T : Table σ} {t : Transition σ} {ts : List (Transition σ)} {p : Progress σ} :
      T.lookup t.origin t.symbol = none →
      Course (T.push t) ts p →
      Course T (t :: ts) (p.cons 1 [] [.inserting t])
  /-- The table has the transition by now. -/
  | known {T : Table σ} {t : Transition σ} {ts : List (Transition σ)} {p : Progress σ} :
      T.lookup t.origin t.symbol = some t.destination →
      Course T ts p →
      Course T (t :: ts) (p.cons 0 [] [.alreadyPresent t])
  /-- The origin goes elsewhere on the symbol by now. -/
  | refused {T : Table σ} {t : Transition σ} {ts : List (Transition σ)} {p : Progress σ}
      {y : StateId} :
      T.lookup t.origin t.symbol = some y →
      y ≠ t.destination →
      Course T ts p →
      Course T (t :: ts) (p.cons 0 [conflictWith t y] [.refusing (conflictWith t y)])

/-- A batch without obstacles takes its course, since no insertion puts an obstacle in the way of a
later one. -/
theorem course_insertEach
    {T : Table σ}
    {batch : List (Transition σ)}
    (hclear : T.Clear batch) :
    Course T batch (T.insertEach batch) := by
  induction batch generalizing T with
  | nil =>
      exact .nil
  | cons t ts ih =>
      rw [insertEach, insert_eq_enter hclear.head]
      cases hlookup : T.lookup t.origin t.symbol with
      | none =>
          rw [enter_of_lookup_eq_none hlookup]
          exact .new hlookup (ih (hclear.tail.push t))
      | some y =>
          by_cases hy : y = t.destination
          · subst hy
            rw [enter_of_lookup_eq_destination hlookup]
            exact .known hlookup (ih hclear.tail)
          · rw [enter_of_lookup_eq_some hlookup hy]
            have hrest := Course.refused hlookup hy (ih hclear.tail)
            rw [Progress.cons, Nat.zero_add] at hrest
            exact hrest

/-- Nothing stops a batch in its course. -/
theorem Course.stopped
    {T : Table σ}
    {batch : List (Transition σ)}
    {p : Progress σ}
    (hcourse : Course T batch p) :
    p.stopped = none := by
  induction hcourse with
  | nil =>
      rfl
  | new _ _ ih =>
      exact ih
  | known _ _ ih =>
      exact ih
  | refused _ _ _ ih =>
      exact ih

/-- The first obstacle to a batch is all that comes of it. -/
theorem insertAll_of_obstacle
    {T : Table σ}
    {batch : List (Transition σ)}
    {e : Error}
    {events : List (Event σ)}
    (h : batch.findSome? T.obstacle? = some (e, events)) :
    T.insertAll batch = ⟨T, .error e, events⟩ := by
  simp [insertAll, h]

/-- A batch without obstacles comes to its end, where its conflicts are reported if it has any. -/
theorem insertAll_of_clear
    {T : Table σ}
    {batch : List (Transition σ)}
    (hclear : T.Clear batch) :
    T.insertAll batch =
      let p := T.insertEach batch
      if p.refused = [] then ⟨p.table, .ok p.added, p.events⟩
      else
        ⟨p.table, .error (.conflicts p.refused),
          p.events ++ [.batchRefusals p.refused.length p.added]⟩ := by
  have hfind : batch.findSome? T.obstacle? = none :=
    List.findSome?_eq_none_iff.2 hclear
  simp only [insertAll, hfind, (course_insertEach hclear).stopped, List.isEmpty_iff]

theorem table_insertAll_of_clear
    {T : Table σ}
    {batch : List (Transition σ)}
    (hclear : T.Clear batch) :
    (T.insertAll batch).table = (T.insertEach batch).table := by
  rw [insertAll_of_clear hclear]
  dsimp only
  split <;> rfl

theorem result_insertAll_of_clear
    {T : Table σ}
    {batch : List (Transition σ)}
    (hclear : T.Clear batch) :
    (T.insertAll batch).result =
      if (T.insertEach batch).refused = [] then .ok (T.insertEach batch).added
      else .error (.conflicts (T.insertEach batch).refused) := by
  rw [insertAll_of_clear hclear]
  dsimp only
  split <;> rfl

/-- What new transitions keep, a whole batch keeps. -/
theorem insertAll_preserves
    {P : Table σ → Prop}
    (hnew : KeptByNew P)
    {T : Table σ}
    (hT : P T)
    (batch : List (Transition σ)) :
    P (T.insertAll batch).table := by
  cases hfind : batch.findSome? T.obstacle? with
  | some obstacle =>
      obtain ⟨e, events⟩ := obstacle
      rw [insertAll_of_obstacle hfind]
      exact hT
  | none =>
      have hclear : T.Clear batch := List.findSome?_eq_none_iff.1 hfind
      rw [table_insertAll_of_clear hclear]
      exact insertEach_preserves hnew hT batch

/-- What new transitions and freezing keep, every change keeps. -/
theorem change_preserves
    {P : Table σ → Prop}
    (hnew : KeptByNew P)
    (hfreeze : ∀ U, P U → P U.freeze.1)
    (T : Table σ)
    (c : Change σ)
    (hT : P T) :
    P (T.change c).1 := by
  cases c with
  | insert t =>
      exact insert_preserves hnew hT t
  | add x a y =>
      exact insert_preserves hnew hT ⟨x, a, y⟩
  | insertAll batch =>
      exact insertAll_preserves hnew hT batch
  | freeze =>
      exact hfreeze T hT
  | copy =>
      exact hT

end Table

end GotoAutomaton
