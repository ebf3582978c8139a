import GotoAutomaton.Proofs.Table.Batch
import GotoAutomaton.Proofs.Table.Index

/-!
# Rearranged batches

The order of a batch decides how the new transitions are listed and which of two rival destinations
wins, and so which transitions are refused and even how many of them.  It decides nothing else.  As
many transitions are new as there are pairs without a destination, whatever the order; a pair over
which the batch has no dispute goes to the same destination; and a batch without refusals has no
dispute over any pair.

Main statement: `insertAll_of_perm`.
-/

namespace GotoAutomaton
namespace Table

variable {σ : Type}

/-- All transitions of a batch with this origin and symbol have the same destination. -/
def Undisputed (batch : List (Transition σ)) (x : StateId) (a : σ) : Prop :=
  ∀ t ∈ batch, ∀ u ∈ batch,
    t.origin = x → t.symbol = a → u.origin = x → u.symbol = a → t.destination = u.destination

/-- No two transitions of a table have the same origin and symbol: they would be in one row. -/
theorem Indexed.nodup_map_key
    {T : Table σ}
    (hT : T.Indexed) :
    (T.toList.map Transition.key).Nodup := by
  have hrow (x : StateId) :
      (T.toList.filter fun t => t.origin = x).Pairwise fun t u => t.symbol ≠ u.symbol := by
    have hkeys := (T.rowOf x).targets.nodup_keys
    rw [hT.targets, targetsFrom, List.map_map] at hkeys
    exact List.pairwise_map.1 hkeys
  rw [List.Nodup, List.pairwise_map, List.pairwise_iff_getElem]
  intro i j hi hj hij hkey
  obtain ⟨horigin, hsymbol⟩ := Prod.mk.inj hkey
  have hapart := hrow T.toList[j].origin
  rw [List.pairwise_filter, List.pairwise_iff_getElem] at hapart
  exact hapart i j hi hj hij (decide_eq_true horigin) (decide_eq_true rfl) hsymbol

variable [DecidableEq σ]

instance (batch : List (Transition σ)) (x : StateId) (a : σ) : Decidable (Undisputed batch x a) :=
  inferInstanceAs (Decidable (∀ t ∈ batch, ∀ u ∈ batch, _))

/-- Tables that find the same have the same transitions. -/
theorem Indexed.perm_toList
    {T U : Table σ}
    (hT : T.Indexed)
    (hU : U.Indexed)
    (hlookup : ∀ x a, T.lookup x a = U.lookup x a) :
    T.toList.Perm U.toList := by
  rw [List.perm_ext_iff_of_nodup (hT.nodup_map_key.of_map _) (hU.nodup_map_key.of_map _)]
  intro t
  rw [← hT.contains_iff, ← hU.contains_iff, contains, contains, hlookup]

section Batches

variable {batch batch' : List (Transition σ)} {x y : StateId} {a : σ}

theorem vacancies_of_perm
    (T : Table σ)
    (hperm : batch.Perm batch') :
    T.vacancies batch = T.vacancies batch' := by
  rw [vacancies, vacancies, List.toFinset_eq_of_perm _ _ (hperm.map Transition.key)]

theorem firstDestination?_eq_none_iff :
    firstDestination? batch x a = none ↔ ∀ t ∈ batch, ¬ (t.origin = x ∧ t.symbol = a) := by
  simp [firstDestination?]

theorem exists_of_firstDestination?
    (h : firstDestination? batch x a = some y) :
    ∃ t ∈ batch, t.origin = x ∧ t.symbol = a ∧ t.destination = y := by
  obtain ⟨t, hfind, rfl⟩ := Option.map_eq_some_iff.1 h
  have hkey := List.find?_some hfind
  rw [Bool.and_eq_true, decide_eq_true_eq, decide_eq_true_eq] at hkey
  exact ⟨t, List.mem_of_find?_eq_some hfind, hkey.1, hkey.2, rfl⟩

/-- Where there is no dispute, every transition has the first destination. -/
theorem Undisputed.firstDestination?_eq
    {t : Transition σ}
    (hone : Undisputed batch t.origin t.symbol)
    (ht : t ∈ batch) :
    firstDestination? batch t.origin t.symbol = some t.destination := by
  cases hfirst : firstDestination? batch t.origin t.symbol with
  | none =>
      exact absurd ⟨rfl, rfl⟩ (firstDestination?_eq_none_iff.1 hfirst t ht)
  | some y =>
      obtain ⟨u, hu, horigin, hsymbol, rfl⟩ := exists_of_firstDestination? hfirst
      rw [hone u hu t ht horigin hsymbol rfl rfl]

theorem firstDestination?_eq_none_of_perm
    (hperm : batch.Perm batch') :
    firstDestination? batch x a = none ↔ firstDestination? batch' x a = none := by
  simp only [firstDestination?_eq_none_iff, hperm.mem_iff]

/-- Where there is no dispute, the order does not matter. -/
theorem Undisputed.firstDestination?_of_perm
    (hone : Undisputed batch x a)
    (hperm : batch.Perm batch') :
    firstDestination? batch x a = firstDestination? batch' x a := by
  cases hfirst : firstDestination? batch' x a with
  | none =>
      rw [firstDestination?_eq_none_of_perm hperm, hfirst]
  | some y =>
      obtain ⟨t, ht, rfl, rfl, rfl⟩ := exists_of_firstDestination? hfirst
      exact hone.firstDestination?_eq (hperm.mem_iff.2 ht)

variable [Symbol σ] {T : Table σ} {p p' : Progress σ}

/-- Nothing is refused exactly if the table contains the whole batch afterwards. -/
theorem Course.refused_eq_nil_iff
    (hcourse : Course T batch p) :
    p.refused = [] ↔ ∀ t ∈ batch, p.table.lookup t.origin t.symbol = some t.destination := by
  have hlength := hcourse.reports.length_eq
  rw [← List.length_eq_zero_iff, ← hlength, List.length_eq_zero_iff, List.filter_eq_nil_iff]
  simp [contains]

/-- A dispute makes for a refusal. -/
theorem Course.undisputed
    (hcourse : Course T batch p)
    (hrefused : p.refused = []) :
    Undisputed batch x a := by
  have hfound := hcourse.refused_eq_nil_iff.1 hrefused
  rintro t ht u hu rfl rfl horigin hsymbol
  have hsame := hfound u hu
  rw [horigin, hsymbol, hfound t ht, Option.some.injEq] at hsame
  exact hsame

/-- A pair without a dispute, and one that had a destination before, go to the same destination in
any order of the batch. -/
theorem Course.lookup_of_perm
    (hcourse : Course T batch p)
    (hcourse' : Course T batch' p')
    (hperm : batch.Perm batch')
    (h : Undisputed batch x a ∨ (T.lookup x a).isSome = true) :
    p.table.lookup x a = p'.table.lookup x a := by
  rw [hcourse.lookup_eq, hcourse'.lookup_eq]
  rcases h with hone | hsome
  · rw [hone.firstDestination?_of_perm hperm]
  · rw [Option.or_of_isSome hsome, Option.or_of_isSome hsome]

theorem Course.isSome_lookup_of_perm
    (hcourse : Course T batch p)
    (hcourse' : Course T batch' p')
    (hperm : batch.Perm batch') :
    (p.table.lookup x a).isSome = (p'.table.lookup x a).isSome := by
  have hnone : (p.table.lookup x a) = none ↔ (p'.table.lookup x a) = none := by
    rw [hcourse.lookup_eq, hcourse'.lookup_eq, Option.or_eq_none_iff, Option.or_eq_none_iff,
      firstDestination?_eq_none_of_perm hperm]
  rw [Bool.eq_iff_iff, Option.isSome_iff_ne_none, Option.isSome_iff_ne_none, ne_eq, ne_eq, hnone]

/-- A batch that is not refused anything is not refused anything in another order. -/
theorem Course.refused_of_perm
    (hcourse : Course T batch p)
    (hcourse' : Course T batch' p')
    (hperm : batch.Perm batch')
    (hrefused : p.refused = []) :
    p'.refused = [] := by
  rw [hcourse'.refused_eq_nil_iff]
  intro t ht
  have hone : Undisputed batch t.origin t.symbol := hcourse.undisputed hrefused
  rw [← hcourse.lookup_of_perm hcourse' hperm (Or.inl hone)]
  exact hcourse.refused_eq_nil_iff.1 hrefused t (hperm.mem_iff.2 ht)

theorem Course.size_of_perm
    (hcourse : Course T batch p)
    (hcourse' : Course T batch' p')
    (hperm : batch.Perm batch') :
    p.added = p'.added ∧ p.table.size = p'.table.size := by
  have hadded : p.added = p'.added := by
    rw [hcourse.added_eq, hcourse'.added_eq, T.vacancies_of_perm hperm]
  exact ⟨hadded, by rw [hcourse.size_eq, hcourse'.size_eq, hadded]⟩

theorem result_eq_ok_iff
    (hclear : T.Clear batch)
    {n : Nat} :
    (T.insertAll batch).result = .ok n ↔
      (T.insertEach batch).refused = [] ∧ (T.insertEach batch).added = n := by
  rw [result_insertAll_of_clear hclear]
  split
  · next hrefused =>
      rw [Except.ok.injEq, and_iff_right hrefused]
  · next hrefused =>
      simp [hrefused]

end Batches

variable [Symbol σ]

/-- Of what a table finds, the order of a batch decides only which of two rivals wins.  Inserted
into an open table in two orders, a batch without states that the owner does not know makes tables
of one size, which find something for the same pairs, and the same destination wherever the batch
has no dispute or the table had a destination before.  It is inserted without conflicts in both
orders or in neither; and if it is, the same number of transitions is reported, the tables find the
same, and they have the same transitions up to their order. -/
theorem insertAll_of_perm
    {T : Table σ}
    {batch batch' : List (Transition σ)}
    (hT : T.Reachable)
    (hopen : T.frozen = false)
    (hwithin : ∀ k, T.owner = some k → ∀ t ∈ batch, t.Within k)
    (hperm : batch.Perm batch') :
    let U := (T.insertAll batch).table
    let U' := (T.insertAll batch').table
    U.size = U'.size ∧
    (∀ x a, (U.lookup x a).isSome = (U'.lookup x a).isSome) ∧
    (∀ x a, Undisputed batch x a ∨ (T.lookup x a).isSome = true →
      U.lookup x a = U'.lookup x a) ∧
    (∀ n, (T.insertAll batch).result = .ok n ↔ (T.insertAll batch').result = .ok n) ∧
    ((∃ n, (T.insertAll batch).result = .ok n) →
      (∀ x a, U.lookup x a = U'.lookup x a) ∧ U.toList.Perm U'.toList) := by
  intro U U'
  have hclear : T.Clear batch := clear_of_within hopen hwithin
  have hclear' : T.Clear batch' := fun t ht => hclear t (hperm.mem_iff.2 ht)
  have hcourse : Course T batch (T.insertEach batch) := course_insertEach hclear
  have hcourse' : Course T batch' (T.insertEach batch') := course_insertEach hclear'
  have hU : U = (T.insertEach batch).table := table_insertAll_of_clear hclear
  have hU' : U' = (T.insertEach batch').table := table_insertAll_of_clear hclear'
  obtain ⟨hadded, hsize⟩ := hcourse.size_of_perm hcourse' hperm
  have hlookup (x : StateId) (a : σ)
      (h : Undisputed batch x a ∨ (T.lookup x a).isSome = true) :
      U.lookup x a = U'.lookup x a := by
    rw [hU, hU']
    exact hcourse.lookup_of_perm hcourse' hperm h
  refine ⟨?_, ?_, hlookup, ?_, ?_⟩
  · rw [hU, hU', hsize]
  · intro x a
    rw [hU, hU']
    exact hcourse.isSome_lookup_of_perm hcourse' hperm
  · intro n
    rw [result_eq_ok_iff hclear, result_eq_ok_iff hclear', hadded]
    exact and_congr_left' ⟨hcourse.refused_of_perm hcourse' hperm,
      hcourse'.refused_of_perm hcourse hperm.symm⟩
  · rintro ⟨n, hn⟩
    have hrefused := ((result_eq_ok_iff hclear).1 hn).1
    have hsame (x : StateId) (a : σ) : U.lookup x a = U'.lookup x a :=
      hlookup x a (Or.inl (hcourse.undisputed hrefused))
    have hindexed (b : List (Transition σ)) : (T.insertAll b).table.Indexed :=
      (hT.after [.insertAll b]).indexed
    exact ⟨hsame, (hindexed batch).perm_toList (hindexed batch') hsame⟩

/-- Of two rivals the one that comes first wins, in either order, and all else is the same; without
rivals nothing depends on the order. -/
theorem insertAll_of_perm_rivals :
    let q : StateId := ⟨.first, 0⟩
    let q' : StateId := ⟨.first, 1⟩
    let T := (make (.owned (.empty .first)) : Table Char).after [.add q 'a' q]
    let batch : List (Transition Char) := [⟨q, 'b', q'⟩, ⟨q, 'b', q⟩, ⟨q, 'a', q⟩, ⟨q', 'c', q⟩]
    let agreed : List (Transition Char) := [⟨q, 'b', q'⟩, ⟨q', 'c', q⟩, ⟨q, 'b', q'⟩]
    T.Reachable ∧ T.frozen = false ∧
      (∀ k, T.owner = some k → ∀ t ∈ batch ++ agreed, t.Within k) ∧
      (T.insertAll batch).table.lookup q 'b' = some q' ∧
      (T.insertAll batch.reverse).table.lookup q 'b' = some q ∧
      (T.insertAll batch).table.size = (T.insertAll batch.reverse).table.size ∧
      (T.insertAll batch).table.lookup q' 'c' = (T.insertAll batch.reverse).table.lookup q' 'c' ∧
      (T.insertAll agreed.reverse).result = .ok 2 ∧
      (T.insertAll agreed).table.toList.Perm (T.insertAll agreed.reverse).table.toList := by
  intro q q' T batch agreed
  have hT : T.Reachable := (reachable_make _).after _
  have hwithin : ∀ k, T.owner = some k → ∀ t ∈ batch ++ agreed, t.Within k := by
    intro k hk
    cases hk
    decide
  have hbatch : ∀ k, T.owner = some k → ∀ t ∈ batch, t.Within k :=
    fun k hk t ht => hwithin k hk t (List.mem_append_left _ ht)
  have hagreed : ∀ k, T.owner = some k → ∀ t ∈ agreed, t.Within k :=
    fun k hk t ht => hwithin k hk t (List.mem_append_right _ ht)
  have hone : Undisputed batch q' 'c' := by
    decide
  have hopen : T.frozen = false := rfl
  have hfirst : (T.insertAll batch).table.lookup q 'b' = some q' := by decide
  have hlast : (T.insertAll batch.reverse).table.lookup q 'b' = some q := by decide
  have hcount : (T.insertAll agreed).result = .ok 2 := by decide
  obtain ⟨hsize, _, hlookup, _⟩ := insertAll_of_perm hT hopen hbatch batch.reverse_perm.symm
  obtain ⟨_, _, _, hresult, hsame⟩ := insertAll_of_perm hT hopen hagreed agreed.reverse_perm.symm
  exact ⟨hT, hopen, hwithin, hfirst, hlast, hsize, hlookup q' 'c' (Or.inl hone),
    (hresult 2).1 hcount, (hsame ⟨2, hcount⟩).2⟩

end Table
end GotoAutomaton
