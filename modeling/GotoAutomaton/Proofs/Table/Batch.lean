import GotoAutomaton.Proofs.Table.Refusal
import Mathlib.Data.Finset.Card

/-!
# Inserted batches

A batch without obstacles is inserted to its end.  Its transitions interact: one of them may make a
later one known or a conflict.  The outcome can still be told from the table before and the table
after: what was found before is found after, what the batch adds is found where it comes first, and
the conflicts are the transitions of the batch that the table after does not contain.

Main statement: `insertAll_first_wins`.
-/

namespace GotoAutomaton

variable {σ : Type}

/-- The pair for which a transition gives a destination. -/
def Transition.key (t : Transition σ) : StateId × σ :=
  (t.origin, t.symbol)

variable [DecidableEq σ]

/-- A conflict reports a transition that a table does not contain, with the destination that the
table has instead. -/
structure Conflict.Reports
    [Symbol σ]
    (T : Table σ)
    (t : Transition σ)
    (c : Conflict) : Prop where
  origin : c.origin = t.origin
  symbol : c.symbol = Symbol.text t.symbol
  existing : T.lookup t.origin t.symbol = some c.existing
  rejected : c.rejected = t.destination

namespace Table

/-- The pairs for which a batch has destinations and a table has none. -/
def vacancies (T : Table σ) (batch : List (Transition σ)) : Finset (StateId × σ) :=
  (batch.map Transition.key).toFinset.filter fun p => T.lookup p.1 p.2 = none

/-- The destination that the first transition of a batch gives to a pair. -/
def firstDestination? (batch : List (Transition σ)) (x : StateId) (a : σ) : Option StateId :=
  (batch.find? fun t => t.origin = x && t.symbol = a).map Transition.destination

theorem mem_vacancies
    {T : Table σ}
    {batch : List (Transition σ)}
    {x : StateId}
    {a : σ} :
    (x, a) ∈ T.vacancies batch ↔
      (∃ t ∈ batch, t.origin = x ∧ t.symbol = a) ∧ T.lookup x a = none := by
  simp [vacancies, Transition.key]

/-- A new transition fills one vacancy. -/
theorem card_vacancies_cons_new
    {T : Table σ}
    {t : Transition σ}
    (hlookup : T.lookup t.origin t.symbol = none)
    (ts : List (Transition σ)) :
    (T.vacancies (t :: ts)).card = 1 + ((T.push t).vacancies ts).card := by
  have hcons :
      T.vacancies (t :: ts) = Insert.insert (t.origin, t.symbol) ((T.push t).vacancies ts) := by
    ext ⟨x, a⟩
    rw [Finset.mem_insert, mem_vacancies, mem_vacancies, lookup_push, Prod.mk.injEq]
    grind
  have hfilled : (t.origin, t.symbol) ∉ (T.push t).vacancies ts := by
    rw [mem_vacancies, lookup_push]
    simp
  rw [hcons, Finset.card_insert_of_notMem hfilled, Nat.add_comm]

/-- A pair that has a destination is no vacancy. -/
theorem vacancies_cons_of_lookup
    {T : Table σ}
    {t : Transition σ}
    {y : StateId}
    (hlookup : T.lookup t.origin t.symbol = some y)
    (ts : List (Transition σ)) :
    T.vacancies (t :: ts) = T.vacancies ts := by
  ext ⟨x, a⟩
  rw [mem_vacancies, mem_vacancies]
  grind

theorem firstDestination?_cons
    (t : Transition σ)
    (ts : List (Transition σ))
    (x : StateId)
    (a : σ) :
    firstDestination? (t :: ts) x a =
      if t.origin = x ∧ t.symbol = a then some t.destination else firstDestination? ts x a := by
  by_cases hx : t.origin = x <;> by_cases ha : t.symbol = a <;>
    simp [firstDestination?, hx, ha]

/-- A transition does not count for a pair that has a destination already. -/
theorem lookup_or_firstDestination?_cons
    {T : Table σ}
    {t : Transition σ}
    {y : StateId}
    (hlookup : T.lookup t.origin t.symbol = some y)
    (ts : List (Transition σ))
    (x : StateId)
    (a : σ) :
    (T.lookup x a).or (firstDestination? (t :: ts) x a) =
      (T.lookup x a).or (firstDestination? ts x a) := by
  rw [firstDestination?_cons]
  split
  · next hkey =>
      obtain ⟨rfl, rfl⟩ := hkey
      rw [hlookup, Option.some_or, Option.some_or]
  · rfl

variable [Symbol σ]

/-- What was found before a batch is found after it, and else what comes first in the batch. -/
theorem Course.lookup_eq
    {T : Table σ}
    {batch : List (Transition σ)}
    {p : Progress σ}
    (hcourse : Course T batch p)
    (x : StateId)
    (a : σ) :
    p.table.lookup x a = (T.lookup x a).or (firstDestination? batch x a) := by
  induction hcourse with
  | nil =>
      simp [firstDestination?]
  | new hlookup _ ih =>
      rw [table_cons, ih, lookup_push, firstDestination?_cons]
      split
      · next hkey =>
          obtain ⟨rfl, rfl⟩ := hkey
          simp [hlookup]
      · rfl
  | known hlookup _ ih =>
      rw [table_cons, ih, lookup_or_firstDestination?_cons hlookup]
  | refused hlookup _ _ ih =>
      rw [table_cons, ih, lookup_or_firstDestination?_cons hlookup]

theorem Course.lookup_eq_some
    {T : Table σ}
    {batch : List (Transition σ)}
    {p : Progress σ}
    (hcourse : Course T batch p)
    {x y : StateId}
    {a : σ}
    (h : T.lookup x a = some y) :
    p.table.lookup x a = some y := by
  rw [hcourse.lookup_eq, h, Option.some_or]

/-- The conflicts of a batch are the transitions that it leaves out. -/
theorem Course.reports
    {T : Table σ}
    {batch : List (Transition σ)}
    {p : Progress σ}
    (hcourse : Course T batch p) :
    List.Forall₂ (Conflict.Reports p.table)
      (batch.filter fun t => !p.table.contains t) p.refused := by
  induction hcourse with
  | nil =>
      exact .nil
  | @new T t ts p hlookup hrest ih =>
      have hpush : (T.push t).lookup t.origin t.symbol = some t.destination := by
        rw [lookup_push, if_pos ⟨rfl, rfl⟩]
      have hcontains : p.table.contains t = true := by
        simp [contains, hrest.lookup_eq_some hpush]
      simpa [hcontains] using ih
  | @known T t ts p hlookup hrest ih =>
      have hcontains : p.table.contains t = true := by
        simp [contains, hrest.lookup_eq_some hlookup]
      simpa [hcontains] using ih
  | @refused T t ts p y hlookup hy hrest ih =>
      have hkept := hrest.lookup_eq_some hlookup
      have hcontains : p.table.contains t = false := by
        simp [contains, hkept, hy]
      simpa [hcontains] using ⟨⟨rfl, rfl, hkept, rfl⟩, ih⟩

/-- Every new transition makes the table longer by one. -/
theorem Course.size_eq
    {T : Table σ}
    {batch : List (Transition σ)}
    {p : Progress σ}
    (hcourse : Course T batch p) :
    p.table.size = T.size + p.added := by
  induction hcourse with
  | nil =>
      rfl
  | new _ _ ih =>
      rw [size_push] at ih
      rw [table_cons, added_cons]
      omega
  | known _ _ ih =>
      rw [table_cons, added_cons]
      omega
  | refused _ _ _ ih =>
      rw [table_cons, added_cons]
      omega

/-- A batch has one new transition for each vacancy. -/
theorem Course.added_eq
    {T : Table σ}
    {batch : List (Transition σ)}
    {p : Progress σ}
    (hcourse : Course T batch p) :
    p.added = (T.vacancies batch).card := by
  induction hcourse with
  | nil =>
      rfl
  | new hlookup _ ih =>
      rw [added_cons, ih, card_vacancies_cons_new hlookup]
  | known hlookup _ ih =>
      rw [added_cons, ih, vacancies_cons_of_lookup hlookup, Nat.zero_add]
  | refused hlookup _ _ ih =>
      rw [added_cons, ih, vacancies_cons_of_lookup hlookup, Nat.zero_add]

/-- Inserting a batch into an open table, without states that the owner does not know, loses
nothing: what was found before stays, and else the first transition of the batch for a pair wins;
the conflicts are, in batch order, the transitions that the table does not contain afterwards, each
reported with what it contains instead; and there is one transition more for each pair of the batch
that had no destination before. -/
theorem insertAll_first_wins
    {T : Table σ}
    {batch : List (Transition σ)}
    (hopen : T.frozen = false)
    (hwithin : ∀ k, T.owner = some k → ∀ t ∈ batch, t.Within k) :
    let U := (T.insertAll batch).table
    (∀ x a, U.lookup x a = (T.lookup x a).or (firstDestination? batch x a)) ∧
    (∃ cs,
      List.Forall₂ (Conflict.Reports U) (batch.filter fun t => !U.contains t) cs ∧
        (T.insertAll batch).result =
          if cs = [] then .ok (U.size - T.size) else .error (.conflicts cs)) ∧
    U.size = T.size + (T.vacancies batch).card := by
  have hclear : T.Clear batch := clear_of_within hopen hwithin
  have hcourse := course_insertEach hclear
  have hsize := hcourse.size_eq
  rw [table_insertAll_of_clear hclear, result_insertAll_of_clear hclear]
  refine ⟨hcourse.lookup_eq, ⟨_, hcourse.reports, ?_⟩, ?_⟩
  · have hgrowth : (T.insertEach batch).table.size - T.size = (T.insertEach batch).added := by
      omega
    rw [hgrowth]
  · rw [hsize, hcourse.added_eq]

/-- A batch with a new transition, a rival of it, and a transition that the table has. -/
theorem insertAll_first_wins_rival :
    let q : StateId := ⟨.first, 0⟩
    let q' : StateId := ⟨.first, 1⟩
    let T := (make (.owned (.empty .first)) : Table Char).after [.add q 'a' q]
    let batch := [⟨q, 'b', q'⟩, ⟨q, 'b', q⟩, ⟨q, 'a', q⟩]
    let U := (T.insertAll batch).table
    T.frozen = false ∧ (∀ k, T.owner = some k → ∀ t ∈ batch, t.Within k) ∧
      U.lookup q 'a' = some q ∧ U.lookup q 'b' = some q' ∧ U.size = 2 := by
  intro q q' T batch U
  have hopen : T.frozen = false := rfl
  have hwithin : ∀ k, T.owner = some k → ∀ t ∈ batch, t.Within k := by
    intro k hk t ht
    cases hk
    simp only [batch, List.mem_cons, List.not_mem_nil, or_false] at ht
    rcases ht with rfl | rfl | rfl <;> exact ⟨rfl, rfl⟩
  obtain ⟨hlookup, _, hsize⟩ := insertAll_first_wins hopen hwithin
  refine ⟨hopen, hwithin, ?_, ?_, ?_⟩
  · rw [hlookup]
    rfl
  · rw [hlookup]
    rfl
  · rw [hsize]
    rfl

end Table

end GotoAutomaton
