import GotoAutomaton.Proofs.Table.Index
import GotoAutomaton.Table.History
import Mathlib.Data.List.Induction

/-!
# Tables as ledgers

A table answers to every history as a ledger does, which has no index and goes through its entries
for everything.  Forgetting the index commutes with every step: entering a transition, entering a
batch, and each change of a history.  The one thing a step asks of the index is that a look-up finds
what going through the entries finds, which holds of indexed tables.

Main statement: `run_make_eq_ledger`, on every history from every way of making a table.
-/

namespace GotoAutomaton

/-- A table shows of itself what a ledger does. -/
structure Table.Shows {σ : Type} [DecidableEq σ] (T : Table σ) (L : Ledger σ) : Prop where
  lookup : ∀ x a, T.lookup x a = L.lookup x a
  contains : ∀ t, T.contains t = L.contains t
  transitionsFrom : ∀ x, T.transitionsFrom x = L.entriesFrom x
  symbolsFrom : ∀ x, T.symbolsFrom x = L.symbolsFrom x
  origins : T.origins = L.origins
  toList : T.toList = L.entries
  size : T.size = L.entries.length
  frozen : T.frozen = L.locked
  owner : T.owner = L.owner

namespace Table

variable {σ : Type}

/-- A new ledger is that of a new table. -/
theorem ledger_make (k : Construction) :
    (make k : Table σ).ledger = Ledger.make k := by
  cases k <;> rfl

theorem origins_ledger (T : Table σ) :
    T.ledger.origins = T.origins := by
  have hfold (ts : List (Transition σ)) :
      ts.foldl (fun xs t => if t.origin ∈ xs then xs else xs ++ [t.origin]) [] =
        distinct (ts.map Transition.origin) := by
    induction ts using List.reverseRecOn with
    | nil =>
        rfl
    | append_singleton ts t ih =>
        rw [List.foldl_concat, ih, List.map_append, List.map_singleton, distinct_concat]
        simp only [mem_distinct]
  exact hfold T.toList

theorem ledger_freeze (T : Table σ) :
    T.freeze.1.ledger = { T.ledger with locked := true } := by
  rw [freeze_eq]
  rfl

/-- An objection to an entry is an obstacle to the transition. -/
theorem objection?_ledger
    [Symbol σ]
    (T : Table σ)
    (t : Transition σ) :
    T.ledger.objection? t = (T.obstacle? t).map Prod.fst := by
  unfold Ledger.objection? obstacle? ledger
  by_cases hfrozen : T.frozen
  · simp [hfrozen]
  · cases T.owner with
    | none =>
        simp [hfrozen]
    | some k =>
        by_cases hx : t.origin.automaton = k <;>
          by_cases hy : t.destination.automaton = k <;>
            simp [hfrozen, foreign?, Transition.endpoints, hx, hy]

variable [DecidableEq σ]

theorem ledger_push
    (T : Table σ)
    (t : Transition σ) :
    (T.push t).ledger = { T.ledger with entries := T.ledger.entries ++ [t] } := by
  simp [ledger]

theorem Indexed.lookup_ledger
    {T : Table σ}
    (hT : T.Indexed)
    (x : StateId)
    (a : σ) :
    T.ledger.lookup x a = T.lookup x a :=
  (hT.lookup_eq x a).symm

/-- An indexed table shows of itself what its ledger does. -/
theorem Indexed.shows_ledger
    {T : Table σ}
    (hT : T.Indexed) :
    T.Shows T.ledger where
  lookup x a := (hT.lookup_ledger x a).symm
  contains t := by
    rw [Bool.eq_iff_iff, hT.contains_iff, Ledger.contains, decide_eq_true_iff]
    rfl
  transitionsFrom := hT.transitionsFrom_eq
  symbolsFrom x := by
    rw [symbolsFrom, hT.transitionsFrom_eq]
    rfl
  origins := T.origins_ledger.symm
  toList := rfl
  size := by simp [size, ledger, Table.toList]
  frozen := rfl
  owner := rfl

variable [Symbol σ]

/-- Inserting and forgetting the index is forgetting it first. -/
theorem Indexed.insert_ledger
    {T : Table σ}
    (hT : T.Indexed)
    (t : Transition σ) :
    T.ledger.insert t = ((T.insert t).table.ledger, (T.insert t).result) := by
  have hlookup := hT.lookup_ledger t.origin t.symbol
  have hobjection := T.objection?_ledger t
  have hinsertion := insertion T t
  generalize T.insert t = o at hinsertion
  cases hinsertion with
  | rejected hobstacle =>
      simp [Ledger.insert, hobjection, hobstacle]
  | new hobstacle hnone =>
      simp [Ledger.insert, Ledger.enter, hobjection, hobstacle, hlookup, hnone, ledger_push,
        Except.mapError]
  | known hobstacle hsome =>
      simp [Ledger.insert, Ledger.enter, hobjection, hobstacle, hlookup, hsome, Except.mapError]
  | refused hobstacle hsome hy =>
      simp [Ledger.insert, Ledger.enter, hobjection, hobstacle, hlookup, hsome, hy,
        Except.mapError, conflictWith]

/-- A batch in its course and forgetting the index is forgetting it first. -/
theorem Course.enterEach_ledger
    {T : Table σ}
    {batch : List (Transition σ)}
    {p : Progress σ}
    (hcourse : Course T batch p)
    (hT : T.Indexed) :
    T.ledger.enterEach batch = (p.table.ledger, p.added, p.refused) := by
  induction hcourse with
  | nil =>
      rfl
  | @new T t ts p hlookup _ ih =>
      have hledger := hT.lookup_ledger t.origin t.symbol
      have hrest := ih (hT.push hlookup)
      rw [ledger_push] at hrest
      simp [Ledger.enterEach, Ledger.enter, hledger, hlookup, hrest, Nat.add_comm]
  | @known T t ts p hlookup _ ih =>
      have hledger := hT.lookup_ledger t.origin t.symbol
      simp [Ledger.enterEach, Ledger.enter, hledger, hlookup, ih hT]
  | @refused T t ts p y hlookup hy _ ih =>
      have hledger := hT.lookup_ledger t.origin t.symbol
      simp [Ledger.enterEach, Ledger.enter, hledger, hlookup, hy, ih hT, conflictWith]

theorem Indexed.insertAll_ledger
    {T : Table σ}
    (hT : T.Indexed)
    (batch : List (Transition σ)) :
    T.ledger.insertAll batch = ((T.insertAll batch).table.ledger, (T.insertAll batch).result) := by
  have hobjection :
      batch.findSome? T.ledger.objection? = (batch.findSome? T.obstacle?).map Prod.fst := by
    rw [List.map_findSome?]
    congr 1
    funext t
    exact T.objection?_ledger t
  cases hfind : batch.findSome? T.obstacle? with
  | some obstacle =>
      obtain ⟨e, events⟩ := obstacle
      simp [Ledger.insertAll, hobjection, hfind, insertAll_of_obstacle hfind]
  | none =>
      have hclear : T.Clear batch := List.findSome?_eq_none_iff.1 hfind
      have heach := (course_insertEach hclear).enterEach_ledger hT
      rw [table_insertAll_of_clear hclear, result_insertAll_of_clear hclear]
      simp only [Ledger.insertAll, hobjection, hfind, Option.map_none, heach]
      cases hrefused : (T.insertEach batch).refused <;> simp

/-- A change and forgetting the index commute, and the verdict is the same. -/
theorem Indexed.change_ledger
    {T : Table σ}
    (hT : T.Indexed)
    (c : Change σ) :
    T.ledger.change c = ((T.change c).1.ledger, (T.change c).2) := by
  cases c with
  | insert t =>
      simp [Ledger.change, Table.change, hT.insert_ledger]
  | add x a y =>
      simp [Ledger.change, Table.change, add, hT.insert_ledger]
  | insertAll batch =>
      simp [Ledger.change, Table.change, hT.insertAll_ledger]
  | freeze =>
      simp [Ledger.change, Table.change, ledger_freeze]
  | copy =>
      simp [Ledger.change, Table.change, ledger, size, toList]

/-- A whole history and forgetting the index commute, and every verdict is the same. -/
theorem Indexed.run_ledger
    {T : Table σ}
    (hT : T.Indexed)
    (cs : List (Change σ)) :
    T.ledger.run cs = ((T.run cs).1.ledger, (T.run cs).2) := by
  induction cs generalizing T with
  | nil =>
      rfl
  | cons c cs ih =>
      simp [Ledger.run, run, hT.change_ledger c, ih (hT.change c)]

/-- However a table is made and whatever its history is, it gives the verdicts that a ledger gives,
and shows in the end what the ledger shows. -/
theorem run_make_eq_ledger
    (k : Construction)
    (cs : List (Change σ)) :
    ((make k : Table σ).run cs).2 = ((Ledger.make k).run cs).2 ∧
      ((make k : Table σ).run cs).1.Shows ((Ledger.make k).run cs).1 := by
  have hmake : (make k : Table σ).Indexed := (reachable_make k).indexed
  have hafter : ((make k : Table σ).run cs).1.Indexed := ((reachable_make k).after cs).indexed
  have hrun := hmake.run_ledger cs
  rw [ledger_make] at hrun
  rw [hrun]
  exact ⟨rfl, hafter.shows_ledger⟩

end Table

end GotoAutomaton
