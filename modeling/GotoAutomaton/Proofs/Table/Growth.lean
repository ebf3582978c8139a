import GotoAutomaton.Proofs.Table.Index
import GotoAutomaton.Proofs.Table.Refusal

/-!
# Growing tables

A change only ever puts transitions behind those that a table has, and only transitions that were
handed to it; the owner stays, and an owned table stays within its automaton.

All listings of an indexed table are read off its transitions, so each of them goes on where it was,
and what a look-up has found it finds again.  Freezing is final: a frozen table refuses whatever is
to be inserted, new or known, and no history changes it.

Main statements: `exists_toList_change` with `exists_toList_after`, `owner_change`, `Owned.change`,
and what stays in a table through every history (`after_append_only`).
-/

namespace GotoAutomaton

variable {σ : Type}

/-- The transitions that a change asks for. -/
def Change.transitions : Change σ → List (Transition σ)
  | .insert t => [t]
  | .add x a y => [⟨x, a, y⟩]
  | .insertAll batch => batch
  | .freeze => []
  | .copy => []

namespace Table

/-- Every transition is within the owner's automaton, if there is an owner. -/
def Owned (T : Table σ) : Prop :=
  ∀ k, T.owner = some k → ∀ t ∈ T.toList, t.Within k

theorem owned_empty (owner : Option Tag) : (empty owner : Table σ).Owned := by
  intro k _ t ht
  cases ht

theorem Owned.freeze
    {T : Table σ}
    (hT : T.Owned) :
    T.freeze.1.Owned := by
  rw [freeze_eq]
  exact hT

variable [Symbol σ]

theorem within_of_obstacle?_eq_none
    {T : Table σ}
    {t : Transition σ}
    {k : Tag}
    (hclear : T.obstacle? t = none)
    (howner : T.owner = some k) :
    t.Within k := by
  apply Decidable.byContradiction
  intro ht
  cases hfrozen : T.frozen with
  | true =>
      rw [obstacle?_of_frozen hfrozen] at hclear
      cases hclear
  | false =>
      rw [obstacle?_of_not_within hfrozen howner ht] at hclear
      cases hclear

variable [DecidableEq σ]

/-- What enters an owned table is within the owner's automaton. -/
theorem Owned.push
    {T : Table σ}
    (hT : T.Owned)
    {t : Transition σ}
    (hclear : T.obstacle? t = none) :
    (T.push t).Owned := by
  intro k howner u hu
  rw [toList_push, List.mem_append, List.mem_singleton] at hu
  rcases hu with hu | rfl
  · exact hT k howner u hu
  · exact within_of_obstacle?_eq_none hclear howner

theorem Owned.change
    {T : Table σ}
    (hT : T.Owned)
    (c : Change σ) :
    (T.change c).1.Owned :=
  change_preserves (fun _ _ hclear _ hU => hU.push hclear) (fun _ hU => hU.freeze) T c hT

theorem Reachable.owned
    {T : Table σ}
    (hT : T.Reachable) :
    T.Owned :=
  hT.induction owned_empty fun _ c hU => hU.change c

theorem owner_change
    (T : Table σ)
    (c : Change σ) :
    (T.change c).1.owner = T.owner := by
  have hfreeze (U : Table σ) (hU : U.owner = T.owner) : U.freeze.1.owner = T.owner := by
    rw [freeze_eq]
    exact hU
  exact change_preserves (fun _ _ _ _ hU => hU) hfreeze T c rfl

/-- An insertion puts the transition last or leaves the table alone. -/
theorem exists_toList_insert
    (T : Table σ)
    (t : Transition σ) :
    ∃ new, new.Sublist [t] ∧ (T.insert t).table.toList = T.toList ++ new := by
  have hinsertion := insertion T t
  generalize T.insert t = o at hinsertion
  cases hinsertion with
  | new =>
      exact ⟨[t], List.Sublist.refl _, T.toList_push t⟩
  | rejected =>
      exact ⟨[], List.nil_sublist _, (List.append_nil _).symm⟩
  | known =>
      exact ⟨[], List.nil_sublist _, (List.append_nil _).symm⟩
  | refused =>
      exact ⟨[], List.nil_sublist _, (List.append_nil _).symm⟩

/-- A batch puts some of its transitions last, in its own order. -/
theorem Course.exists_toList
    {T : Table σ}
    {batch : List (Transition σ)}
    {p : Progress σ}
    (hcourse : Course T batch p) :
    ∃ new, new.Sublist batch ∧ p.table.toList = T.toList ++ new := by
  induction hcourse with
  | nil =>
      exact ⟨[], List.nil_sublist _, (List.append_nil _).symm⟩
  | @new T t ts p _ _ ih =>
      obtain ⟨new, hsub, hlist⟩ := ih
      refine ⟨t :: new, hsub.cons_cons t, ?_⟩
      rw [table_cons, hlist, toList_push, List.append_assoc]
      rfl
  | known _ _ ih =>
      obtain ⟨new, hsub, hlist⟩ := ih
      exact ⟨new, hsub.cons _, hlist⟩
  | refused _ _ _ ih =>
      obtain ⟨new, hsub, hlist⟩ := ih
      exact ⟨new, hsub.cons _, hlist⟩

theorem exists_toList_insertAll
    (T : Table σ)
    (batch : List (Transition σ)) :
    ∃ new, new.Sublist batch ∧ (T.insertAll batch).table.toList = T.toList ++ new := by
  cases hfind : batch.findSome? T.obstacle? with
  | some obstacle =>
      obtain ⟨e, events⟩ := obstacle
      rw [insertAll_of_obstacle hfind]
      exact ⟨[], List.nil_sublist _, (List.append_nil _).symm⟩
  | none =>
      have hclear : T.Clear batch := List.findSome?_eq_none_iff.1 hfind
      rw [table_insertAll_of_clear hclear]
      exact (course_insertEach hclear).exists_toList

/-- A change puts some of its transitions last. -/
theorem exists_toList_change
    (T : Table σ)
    (c : Change σ) :
    ∃ new, new.Sublist c.transitions ∧ (T.change c).1.toList = T.toList ++ new := by
  cases c with
  | insert t =>
      exact T.exists_toList_insert t
  | add x a y =>
      exact T.exists_toList_insert ⟨x, a, y⟩
  | insertAll batch =>
      exact T.exists_toList_insertAll batch
  | freeze =>
      refine ⟨[], List.nil_sublist _, ?_⟩
      rw [change, freeze_eq, List.append_nil]
      rfl
  | copy =>
      exact ⟨[], List.nil_sublist _, (List.append_nil _).symm⟩

/-- A history puts some of its transitions last, in its own order. -/
theorem exists_toList_after
    (T : Table σ)
    (cs : List (Change σ)) :
    ∃ new, new.Sublist (cs.flatMap Change.transitions) ∧
      (T.after cs).toList = T.toList ++ new := by
  induction cs generalizing T with
  | nil =>
      exact ⟨[], List.nil_sublist _, (List.append_nil _).symm⟩
  | cons c cs ih =>
      obtain ⟨new, hsub, hchange⟩ := T.exists_toList_change c
      obtain ⟨rest, hrest, hafter⟩ := ih (T.change c).1
      refine ⟨new ++ rest, ?_, ?_⟩
      · rw [List.flatMap_cons]
        exact hsub.append hrest
      · rw [after_cons, hafter, hchange, List.append_assoc]

end Table

namespace Table

variable {σ : Type}

/-- The verdict of a frozen table on a change: the first transition to be inserted is named as
refused, and there is nothing to refuse in an empty batch. -/
def frozenVerdict [Symbol σ] (T : Table σ) : Change σ → Verdict
  | .insert t => .inserted (.error (.frozenTable t.origin (Symbol.text t.symbol)))
  | .add x a _ => .inserted (.error (.frozenTable x (Symbol.text a)))
  | .insertAll [] => .insertedAll (.ok 0)
  | .insertAll (t :: _) =>
      .insertedAll (.error (.frozenTable t.origin (Symbol.text t.symbol)))
  | .freeze => .frozen
  | .copy => .copied T.size true T.owner

theorem Indexed.transitionsFrom_prefix
    {T U : Table σ}
    (hT : T.Indexed)
    (hU : U.Indexed)
    (hlist : T.toList <+: U.toList)
    (x : StateId) :
    T.transitionsFrom x <+: U.transitionsFrom x := by
  rw [hT.transitionsFrom_eq, hU.transitionsFrom_eq]
  exact hlist.filter _

theorem origins_prefix
    {T U : Table σ}
    (hlist : T.toList <+: U.toList) :
    T.origins <+: U.origins :=
  distinct_prefix (hlist.map Transition.origin)

variable [DecidableEq σ]

/-- A longer table finds what a shorter one finds. -/
theorem Indexed.lookup_of_prefix
    {T U : Table σ}
    (hT : T.Indexed)
    (hU : U.Indexed)
    (hlist : T.toList <+: U.toList)
    {x y : StateId}
    {a : σ}
    (h : T.lookup x a = some y) :
    U.lookup x a = some y := by
  rw [hT.lookup_eq_some_iff] at h
  exact hU.lookup_eq_some_iff.2 (hlist.subset h)

variable [Symbol σ]

theorem toList_prefix_after
    (T : Table σ)
    (cs : List (Change σ)) :
    T.toList <+: (T.after cs).toList := by
  obtain ⟨new, _, hnew⟩ := T.exists_toList_after cs
  exact ⟨new, hnew.symm⟩

theorem owner_after
    (T : Table σ)
    (cs : List (Change σ)) :
    (T.after cs).owner = T.owner := by
  induction cs generalizing T with
  | nil =>
      rfl
  | cons c cs ih =>
      rw [after_cons, ih, owner_change]

/-- A frozen table refuses every insertion, whether or not it has the transition. -/
theorem insert_of_frozen
    {T : Table σ}
    (hfrozen : T.frozen = true)
    (t : Transition σ) :
    T.insert t = ⟨T, .error (.frozenTable t.origin (Symbol.text t.symbol)), []⟩ :=
  insert_of_obstacle (obstacle?_of_frozen hfrozen t)

theorem change_of_frozen
    {T : Table σ}
    (hfrozen : T.frozen = true)
    (c : Change σ) :
    T.change c = (T, T.frozenVerdict c) := by
  cases c with
  | insert t =>
      rw [change, insert_of_frozen hfrozen]
      rfl
  | add x a y =>
      rw [change, add, insert_of_frozen hfrozen]
      rfl
  | insertAll batch =>
      cases batch with
      | nil =>
          rfl
      | cons t ts =>
          rw [change, insertAll_of_locked hfrozen]
          rfl
  | freeze =>
      simp [change, freeze, hfrozen, frozenVerdict]
  | copy =>
      rw [change, hfrozen, frozenVerdict]

/-- No history changes a frozen table. -/
theorem run_of_frozen
    {T : Table σ}
    (hfrozen : T.frozen = true)
    (cs : List (Change σ)) :
    T.run cs = (T, cs.map T.frozenVerdict) := by
  induction cs with
  | nil =>
      rfl
  | cons c cs ih =>
      rw [run, change_of_frozen hfrozen]
      simp [ih]

/-- A table is append-only.  Whatever a history does to it, its transitions stay in front of all
others, and so do the transitions and the symbols out of each state and the origins; what was found
on a symbol is found ever after; and the owner stays.  Freezing is final: a table that is frozen
stays frozen, refuses everything that is to be inserted, and is the same table after the history, so
that everything read from it is what was read before. -/
theorem after_append_only
    {T : Table σ}
    (hT : T.Reachable)
    (cs : List (Change σ)) :
    let U := T.after cs
    T.toList <+: U.toList ∧
    (∀ x, T.transitionsFrom x <+: U.transitionsFrom x) ∧
    (∀ x, T.symbolsFrom x <+: U.symbolsFrom x) ∧
    T.origins <+: U.origins ∧
    (∀ x a y, T.lookup x a = some y → U.lookup x a = some y) ∧
    U.owner = T.owner ∧
    (T.frozen = true →
      U.frozen = true ∧ U = T ∧ (T.run cs).2 = cs.map T.frozenVerdict) := by
  intro U
  have hlist : T.toList <+: U.toList := T.toList_prefix_after cs
  have hindexed : U.Indexed := (hT.after cs).indexed
  have hfrom := hT.indexed.transitionsFrom_prefix hindexed hlist
  refine ⟨hlist, hfrom, ?_, origins_prefix hlist, ?_, T.owner_after cs, ?_⟩
  · intro x
    exact (hfrom x).map Transition.symbol
  · intro x a y h
    exact hT.indexed.lookup_of_prefix hindexed hlist h
  · intro hfrozen
    have hrun := run_of_frozen hfrozen cs
    have hU : U = T := congrArg Prod.fst hrun
    exact ⟨hU ▸ hfrozen, hU, congrArg Prod.snd hrun⟩

/-- An open table keeps its first transition over a batch with a rival of it, and is frozen; then a
known transition, a new one and a copy leave it alone. -/
theorem after_append_only_lock :
    let q : StateId := ⟨.first, 0⟩
    let q' : StateId := ⟨.first, 1⟩
    let T := (make (.owned (.empty .first)) : Table Char).after [.add q 'a' q']
    let U := T.after [.insertAll [⟨q, 'a', q⟩, ⟨q, 'b', q⟩], .freeze]
    let cs : List (Change Char) := [.add q 'a' q', .copy, .insertAll [⟨q', 'c', q⟩]]
    T.Reachable ∧ U.Reachable ∧ U.frozen = true ∧
      U.lookup q 'a' = some q' ∧ T.transitionsFrom q <+: U.transitionsFrom q ∧
      U.after cs = U ∧ (U.run cs).2 = cs.map U.frozenVerdict := by
  intro q q' T U cs
  have hT : T.Reachable := (reachable_make _).after _
  have hU : U.Reachable := hT.after _
  have hfrozen : U.frozen = true := rfl
  obtain ⟨_, hfrom, _, _, hlookup, _⟩ := after_append_only hT
    [.insertAll [⟨q, 'a', q⟩, ⟨q, 'b', q⟩], .freeze]
  obtain ⟨_, _, _, _, _, _, hfinal⟩ := after_append_only hU cs
  obtain ⟨_, hsame, hverdicts⟩ := hfinal hfrozen
  exact ⟨hT, hU, hfrozen, hlookup q 'a' q' rfl, hfrom q, hsame, hverdicts⟩

end Table

end GotoAutomaton
