import GotoAutomaton.Proofs.Table.Batch

/-!
# Batches one after the other

A batch without obstacles can be cut anywhere: its first part and then its second part come to what
the whole comes to, and so do its transitions inserted one by one.  The check in front of the second
part sees a table that the first part has changed, but only by new transitions, which put no
obstacle in the way of others.

Main statements: courses are put together (`Course.append`) and there is only one for a batch
(`Course.unique`), a course is a run of single insertions (`Course.run_map_insert`), and from these
`insertAll_append`.
-/

namespace GotoAutomaton

/-- Whether a transition was new when it was inserted on its own. -/
def Verdict.isNew : Verdict → Bool
  | .inserted (.ok new) => new
  | _ => false

/-- The conflict for which a transition was refused when it was inserted on its own. -/
def Verdict.conflict? : Verdict → Option Conflict
  | .inserted (.error (.conflict c)) => some c
  | _ => none

namespace Table

variable {σ : Type}

/-- The result of a batch that comes to its end. -/
def batchResult (added : Nat) (refused : List Conflict) : Except Error Nat :=
  if refused = [] then .ok added else .error (.conflicts refused)

/-- The progress of a batch and then of another. -/
def Progress.append (p q : Progress σ) : Progress σ :=
  ⟨q.table, p.added + q.added, p.refused ++ q.refused, q.stopped, p.events ++ q.events⟩

theorem append_cons
    (p q : Progress σ)
    (added : Nat)
    (refused : List Conflict)
    (events : List (Event σ)) :
    (p.cons added refused events).append q = (p.append q).cons added refused events := by
  simp [Progress.append, Progress.cons, Nat.add_assoc]

variable [DecidableEq σ] [Symbol σ]

/-- A course goes on where another ends. -/
theorem Course.append
    {T : Table σ}
    {xs ys : List (Transition σ)}
    {p q : Progress σ}
    (hxs : Course T xs p)
    (hys : Course p.table ys q) :
    Course T (xs ++ ys) (p.append q) := by
  induction hxs with
  | nil =>
      simpa [Progress.append] using hys
  | new hlookup _ ih =>
      rw [append_cons]
      exact .new hlookup (ih hys)
  | known hlookup _ ih =>
      rw [append_cons]
      exact .known hlookup (ih hys)
  | refused hlookup hy _ ih =>
      rw [append_cons]
      exact .refused hlookup hy (ih hys)

/-- What the table finds decides how the course of a batch goes on. -/
theorem Course.unique
    {T : Table σ}
    {batch : List (Transition σ)}
    {p q : Progress σ}
    (hp : Course T batch p)
    (hq : Course T batch q) :
    p = q := by
  induction hp generalizing q with
  | nil =>
      cases hq
      rfl
  | new hlookup _ ih =>
      cases hq with
      | new _ hrest =>
          rw [ih hrest]
      | known hlookup' _ =>
          simp [hlookup] at hlookup'
      | refused hlookup' _ _ =>
          simp [hlookup] at hlookup'
  | known hlookup _ ih =>
      cases hq with
      | new hlookup' _ =>
          simp [hlookup] at hlookup'
      | known _ hrest =>
          rw [ih hrest]
      | refused hlookup' hy _ =>
          rw [hlookup, Option.some.injEq] at hlookup'
          exact absurd hlookup'.symm hy
  | refused hlookup hy _ ih =>
      cases hq with
      | new hlookup' _ =>
          simp [hlookup] at hlookup'
      | known hlookup' _ =>
          rw [hlookup, Option.some.injEq] at hlookup'
          exact absurd hlookup' hy
      | refused hlookup' _ hrest =>
          rw [hlookup, Option.some.injEq] at hlookup'
          rw [hlookup', ih hrest]

/-- A course puts no obstacle in the way of what comes after it. -/
theorem Course.clear
    {T : Table σ}
    {xs ys : List (Transition σ)}
    {p : Progress σ}
    (hcourse : Course T xs p)
    (hclear : T.Clear ys) :
    p.table.Clear ys := by
  induction hcourse with
  | nil =>
      exact hclear
  | new _ _ ih =>
      exact ih (hclear.push _)
  | known _ _ ih =>
      exact ih hclear
  | refused _ _ _ ih =>
      exact ih hclear

theorem result_insertAll_eq_batchResult
    {T : Table σ}
    {batch : List (Transition σ)}
    (hclear : T.Clear batch) :
    (T.insertAll batch).result =
      batchResult (T.insertEach batch).added (T.insertEach batch).refused :=
  result_insertAll_of_clear hclear

/-- A batch that is cut in two makes the progress of its parts. -/
theorem insertEach_append
    {T : Table σ}
    {xs ys : List (Transition σ)}
    (hclear : T.Clear (xs ++ ys)) :
    T.insertEach (xs ++ ys) =
      (T.insertEach xs).append ((T.insertEach xs).table.insertEach ys) := by
  obtain ⟨hxs, hys⟩ := clear_append_iff.1 hclear
  have hfirst : Course T xs (T.insertEach xs) := course_insertEach hxs
  have hrest := course_insertEach (hfirst.clear hys)
  exact (course_insertEach hclear).unique (hfirst.append hrest)

/-- The course of a batch is the run of its single insertions, with as many new transitions and with
the same conflicts. -/
theorem Course.run_map_insert
    {T : Table σ}
    {batch : List (Transition σ)}
    {p : Progress σ}
    (hcourse : Course T batch p)
    (hclear : T.Clear batch) :
    let singles := T.run (batch.map Change.insert)
    singles.1 = p.table ∧
      singles.2.countP Verdict.isNew = p.added ∧
      singles.2.filterMap Verdict.conflict? = p.refused := by
  induction hcourse with
  | nil =>
      exact ⟨rfl, rfl, rfl⟩
  | @new T t ts p hlookup _ ih =>
      obtain ⟨htable, hadded, hrefused⟩ := ih (hclear.tail.push t)
      have hinsert := insert_eq_enter hclear.head
      rw [enter_of_lookup_eq_none hlookup] at hinsert
      simp [run, change, hinsert, List.countP_cons, List.filterMap_cons, Verdict.isNew,
        Verdict.conflict?, htable, hadded, hrefused, Nat.add_comm]
  | @known T t ts p hlookup _ ih =>
      obtain ⟨htable, hadded, hrefused⟩ := ih hclear.tail
      have hinsert := insert_eq_enter hclear.head
      rw [enter_of_lookup_eq_destination hlookup] at hinsert
      simp [run, change, hinsert, List.filterMap_cons, Verdict.isNew, Verdict.conflict?, htable,
        hadded, hrefused]
  | @refused T t ts p y hlookup hy _ ih =>
      obtain ⟨htable, hadded, hrefused⟩ := ih hclear.tail
      have hinsert := insert_eq_enter hclear.head
      rw [enter_of_lookup_eq_some hlookup hy] at hinsert
      simp [run, change, hinsert, Verdict.isNew, Verdict.conflict?, htable, hadded, hrefused]

/-- Inserting two batches as one into an open table, without states that the owner does not know,
ends in the same table as inserting them one after the other and as inserting all their transitions
on their own.  The whole adds as many transitions as the two batches add and as single insertions
find new; and the conflicts of the whole are those of the first batch and then those of the second,
and those of the single insertions in their order. -/
theorem insertAll_append
    {T : Table σ}
    {xs ys : List (Transition σ)}
    (hopen : T.frozen = false)
    (hwithin : ∀ k, T.owner = some k → ∀ t ∈ xs ++ ys, t.Within k) :
    let U := (T.insertAll xs).table
    let V := (T.insertAll (xs ++ ys)).table
    let singles := T.run ((xs ++ ys).map Change.insert)
    V = (U.insertAll ys).table ∧ V = singles.1 ∧
    ∃ m n cs ds,
      U.size = T.size + m ∧ V.size = U.size + n ∧
      singles.2.countP Verdict.isNew = m + n ∧
      (T.insertAll xs).result = batchResult m cs ∧
      (U.insertAll ys).result = batchResult n ds ∧
      (T.insertAll (xs ++ ys)).result = batchResult (m + n) (cs ++ ds) ∧
      singles.2.filterMap Verdict.conflict? = cs ++ ds := by
  have hclear : T.Clear (xs ++ ys) := clear_of_within hopen hwithin
  obtain ⟨hxs, hys⟩ := clear_append_iff.1 hclear
  have hfirst : Course T xs (T.insertEach xs) := course_insertEach hxs
  have hrest : (T.insertEach xs).table.Clear ys := hfirst.clear hys
  have hsecond := course_insertEach hrest
  have happend := insertEach_append hclear
  obtain ⟨htable, hadded, hrefused⟩ := (course_insertEach hclear).run_map_insert hclear
  rw [happend] at htable hadded hrefused
  dsimp only
  rw [table_insertAll_of_clear hxs, table_insertAll_of_clear hclear,
    table_insertAll_of_clear hrest, result_insertAll_eq_batchResult hxs,
    result_insertAll_eq_batchResult hclear, result_insertAll_eq_batchResult hrest, happend]
  refine ⟨rfl, htable.symm, (T.insertEach xs).added, _, (T.insertEach xs).refused, _,
    ?_, ?_, ?_, rfl, rfl, rfl, ?_⟩
  · exact hfirst.size_eq
  · exact hsecond.size_eq
  · exact hadded
  · exact hrefused

/-- A batch with a new transition, a known one and a rival of the first batch. -/
theorem insertAll_append_rival :
    let q : StateId := ⟨.first, 0⟩
    let q' : StateId := ⟨.first, 1⟩
    let T : Table Char := make (.owned (.empty .first))
    let xs := [⟨q, 'a', q⟩, ⟨q, 'a', q'⟩]
    let ys := [⟨q, 'a', q'⟩, ⟨q, 'b', q⟩, ⟨q, 'a', q⟩]
    T.frozen = false ∧ (∀ k, T.owner = some k → ∀ t ∈ xs ++ ys, t.Within k) ∧
      (T.insertAll (xs ++ ys)).table = ((T.insertAll xs).table.insertAll ys).table ∧
      (T.run ((xs ++ ys).map Change.insert)).2.filterMap Verdict.conflict? =
        [⟨q, "a", q, q'⟩, ⟨q, "a", q, q'⟩] ∧
      (T.insertAll (xs ++ ys)).result =
        batchResult 2 [⟨q, "a", q, q'⟩, ⟨q, "a", q, q'⟩] := by
  intro q q' T xs ys
  have hopen : T.frozen = false := rfl
  have hwithin : ∀ k, T.owner = some k → ∀ t ∈ xs ++ ys, t.Within k := by
    intro k hk
    cases hk
    decide
  obtain ⟨htable, _, m, n, cs, ds, _, _, hadded, _, _, hresult, hrefused⟩ :=
    insertAll_append hopen hwithin
  have hcount : (T.run ((xs ++ ys).map Change.insert)).2.countP Verdict.isNew = 2 := by
    decide
  have hconflicts : (T.run ((xs ++ ys).map Change.insert)).2.filterMap Verdict.conflict? =
      [⟨q, "a", q, q'⟩, ⟨q, "a", q, q'⟩] := by
    decide
  rw [← hadded, hcount, ← hrefused, hconflicts] at hresult
  exact ⟨hopen, hwithin, htable, hconflicts, hresult⟩

end Table
end GotoAutomaton
