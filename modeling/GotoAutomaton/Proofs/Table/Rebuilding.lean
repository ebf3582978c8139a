import GotoAutomaton.Proofs.Table.Arrangement
import GotoAutomaton.Proofs.Table.Growth

/-!
# Tables built again

What a table lists is enough to build it again.  In the list of a reachable table no two transitions
have the same origin and symbol, and none has a state that the owner does not know; so inserted into
a new table each of them is new in its turn, and the new table has the same list.  The index is
determined by the list, so the two tables differ in nothing but the owner and the lock.

Main statements: what a batch without rivals comes to in a new table (`insertEach_empty`), that a
batch of known transitions comes to nothing (`insertAll_of_known`), and from both
`insertAll_toList`.
-/

namespace GotoAutomaton
namespace Table

variable {σ : Type} {batch : List (Transition σ)}

theorem undisputed_of_nodup
    (hnodup : (batch.map Transition.key).Nodup)
    (x : StateId)
    (a : σ) :
    Undisputed batch x a := by
  rintro t ht u hu rfl rfl horigin hsymbol
  have hkey : t.key = u.key := Prod.ext horigin.symm hsymbol.symm
  rw [List.inj_on_of_nodup_map hnodup ht hu hkey]

variable [DecidableEq σ]

/-- Every pair is vacant in a new table. -/
theorem card_vacancies_empty
    (hnodup : (batch.map Transition.key).Nodup)
    (owner : Option Tag) :
    ((empty owner : Table σ).vacancies batch).card = batch.length := by
  simp only [vacancies, lookup_empty, Finset.filter_true]
  rw [List.toFinset_card_of_nodup hnodup, List.length_map]

variable [Symbol σ]

/-- A batch without rivals is inserted into a new table as a whole and in its order: as many
transitions are new as the batch has, so none is left out. -/
theorem insertEach_empty
    {owner : Option Tag}
    (hclear : (empty owner : Table σ).Clear batch)
    (hnodup : (batch.map Transition.key).Nodup) :
    let p := (empty owner).insertEach batch
    p.refused = [] ∧ p.added = batch.length ∧ p.table.toList = batch := by
  intro p
  have hcourse : Course (empty owner) batch p := course_insertEach hclear
  have hadded : p.added = batch.length := by
    rw [hcourse.added_eq, card_vacancies_empty hnodup]
  refine ⟨?_, hadded, ?_⟩
  · rw [hcourse.refused_eq_nil_iff]
    intro t ht
    rw [hcourse.lookup_eq, lookup_empty, Option.none_or]
    exact (undisputed_of_nodup hnodup _ _).firstDestination?_eq ht
  · obtain ⟨new, hsub, hlist⟩ := hcourse.exists_toList
    have hnew : p.table.toList = new := hlist
    have hlength : new.length = batch.length := by
      have hsize := hcourse.size_eq
      rw [hadded] at hsize
      rw [← hnew, toList, Array.length_toList]
      simpa [size, empty] using hsize
    rw [hnew, hsub.eq_of_length hlength]

/-- Known transitions are found known, one after the other. -/
theorem Course.of_known
    {T : Table σ}
    {p : Progress σ}
    (hcourse : Course T batch p)
    (hknown : ∀ t ∈ batch, T.contains t = true) :
    p.table = T ∧ p.added = 0 ∧ p.refused = [] := by
  induction hcourse with
  | nil =>
      exact ⟨rfl, rfl, rfl⟩
  | @new T t ts p hlookup _ _ =>
      have ht := hknown t List.mem_cons_self
      simp [contains, hlookup] at ht
  | @known T t ts p _ _ ih =>
      obtain ⟨htable, hadded, hrefused⟩ := ih fun u hu => hknown u (List.mem_cons_of_mem t hu)
      exact ⟨htable, by rw [added_cons, hadded], hrefused⟩
  | @refused T t ts p y hlookup hy _ _ =>
      have ht := hknown t List.mem_cons_self
      simp [contains, hlookup, hy] at ht

/-- A batch of known transitions changes nothing, and nothing of it is new. -/
theorem insertAll_of_known
    {T : Table σ}
    (hclear : T.Clear batch)
    (hknown : ∀ t ∈ batch, T.contains t = true) :
    (T.insertAll batch).table = T ∧ (T.insertAll batch).result = .ok 0 := by
  obtain ⟨htable, hadded, hrefused⟩ := (course_insertEach hclear).of_known hknown
  rw [table_insertAll_of_clear hclear, htable, result_eq_ok_iff hclear]
  exact ⟨rfl, hrefused, hadded⟩

/-- The list of an indexed table makes the same table under another owner, if the owner lets it. -/
theorem Indexed.insertAll_empty
    {T : Table σ}
    (hT : T.Indexed)
    {owner : Option Tag}
    (hclear : (empty owner : Table σ).Clear T.toList) :
    ((empty owner).insertAll T.toList).table = { T with owner := owner, frozen := false } ∧
      ((empty owner).insertAll T.toList).result = .ok T.size := by
  obtain ⟨hrefused, hadded, hlist⟩ := insertEach_empty hclear hT.nodup_map_key
  have hindexed : ((empty owner).insertAll T.toList).table.Indexed :=
    (indexed_empty owner).change (.insertAll T.toList)
  have howner : ((empty owner).insertAll T.toList).table.owner = owner :=
    (empty owner).owner_change (.insertAll T.toList)
  have hopen : ((empty owner).insertAll T.toList).table.frozen = false :=
    insertAll_preserves (P := fun V => V.frozen = false) (fun _ _ _ _ hV => hV) rfl T.toList
  constructor
  · refine hindexed.ext ⟨hT.keys, hT.order, hT.targets⟩ ?_ howner hopen
    rw [table_insertAll_of_clear hclear, hlist]
    rfl
  · rw [result_eq_ok_iff hclear, hadded]
    exact ⟨hrefused, by simp [toList, size]⟩

/-- A table is built again from its list.  Inserted as one batch into a new table, without an owner
or with the same owner, all its transitions are new; the new table lists the same, is the old one in
all but the owner and the lock, and everything read from it is what is read from the old one.
Inserting the list a second time, in any order, changes nothing. -/
theorem insertAll_toList
    {T : Table σ}
    (hT : T.Reachable)
    (k : Construction)
    (howner : (make k : Table σ).owner = none ∨ (make k : Table σ).owner = T.owner) :
    let U := ((make k : Table σ).insertAll T.toList).table
    ((make k : Table σ).insertAll T.toList).result = .ok T.size ∧
    U = { T with owner := (make k : Table σ).owner, frozen := false } ∧
    U.toList = T.toList ∧
    (∀ x a, U.lookup x a = T.lookup x a) ∧
    (∀ t, U.contains t = T.contains t) ∧
    (∀ x, U.transitionsFrom x = T.transitionsFrom x) ∧
    (∀ x, U.symbolsFrom x = T.symbolsFrom x) ∧
    U.origins = T.origins ∧
    ∀ batch, batch.Perm T.toList →
      (U.insertAll batch).result = .ok 0 ∧ (U.insertAll batch).table = U := by
  obtain ⟨owner, hmake⟩ := exists_make_eq_empty (σ := σ) k
  rw [hmake] at howner ⊢
  have hwithin : ∀ k', owner = some k' → ∀ t ∈ T.toList, t.Within k' := by
    intro k' hk'
    rcases howner with hnone | hsame
    · cases hk'.symm.trans hnone
    · exact hT.owned k' (hsame.symm.trans hk')
  have hclear : (empty owner : Table σ).Clear T.toList := clear_of_within rfl hwithin
  obtain ⟨htable, hresult⟩ := hT.indexed.insertAll_empty hclear
  dsimp only
  rw [htable]
  refine ⟨hresult, rfl, rfl, fun _ _ => rfl, fun _ => rfl, fun _ => rfl, fun _ => rfl, rfl, ?_⟩
  intro batch hperm
  have hagain : ({ T with owner := owner, frozen := false } : Table σ).Clear batch :=
    clear_of_within rfl fun k' hk' t ht => hwithin k' hk' t (hperm.mem_iff.1 ht)
  have hknown : ∀ t ∈ batch, T.contains t = true :=
    fun t ht => (hT.indexed.contains_iff t).2 (hperm.mem_iff.1 ht)
  exact (insertAll_of_known hagain hknown).symm

/-- A frozen table of one automaton, after a refused rival, is built again without an owner. -/
theorem insertAll_toList_frozen :
    let q : StateId := ⟨.first, 0⟩
    let q' : StateId := ⟨.first, 1⟩
    let T := (make (.owned (.empty .first)) : Table Char).after
      [.insertAll [⟨q', 'a', q⟩, ⟨q, 'b', q'⟩, ⟨q', 'a', q'⟩], .add q 'c' q, .freeze]
    let U := ((make .unowned : Table Char).insertAll T.toList).table
    T.Reachable ∧ (make .unowned : Table Char).owner = none ∧ T.frozen = true ∧
      ((make .unowned : Table Char).insertAll T.toList).result = .ok 3 ∧
      U.frozen = false ∧ U.transitionsFrom q = [⟨q, 'b', q'⟩, ⟨q, 'c', q⟩] ∧
      U.origins = [q', q] ∧ (U.insertAll T.toList.reverse).table = U := by
  intro q q' T U
  have hT : T.Reachable := (reachable_make _).after _
  have howner : (make .unowned : Table Char).owner = none := rfl
  have hfrozen : T.frozen = true := by decide
  have hsize : T.size = 3 := by decide
  obtain ⟨hresult, hU, _, _, _, hfrom, _, horigins, hagain⟩ :=
    insertAll_toList hT .unowned (Or.inl howner)
  refine ⟨hT, howner, hfrozen, ?_, ?_, ?_, ?_, (hagain _ T.toList.reverse_perm).2⟩
  · rw [hresult, hsize]
  · exact congrArg Table.frozen hU
  · rw [hfrom]
    decide
  · rw [horigins]
    decide

end Table
end GotoAutomaton
