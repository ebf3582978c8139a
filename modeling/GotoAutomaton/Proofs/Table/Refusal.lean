import GotoAutomaton.Proofs.Table.Step
import Mathlib.Tactic.Push

/-!
# Refused batches

A batch is refused as a whole or not at all.  The check in front of the batch and the check of every
single insertion ask the same question, and no insertion of the batch changes the answer: it depends
on the lock and on the owner, which insertions leave alone.  So a batch that comes to be inserted
never meets an obstacle half way.

There are three kinds of batches (`admission`): those before a frozen table, those with a state of
another automaton, and those without obstacles.

Main statement: `insertAll_all_or_nothing`.
-/

namespace GotoAutomaton

/-- Both ends of a transition are states of one automaton. -/
def Transition.Within {σ : Type} (k : Tag) (t : Transition σ) : Prop :=
  t.origin.automaton = k ∧ t.destination.automaton = k

instance {σ : Type} (k : Tag) (t : Transition σ) : Decidable (t.Within k) :=
  inferInstanceAs (Decidable (_ ∧ _))

namespace Table

variable {σ : Type}

/-- The origin is named before the destination. -/
theorem foreign?_of_not_within
    {k : Tag}
    {t : Transition σ}
    (ht : ¬ t.Within k) :
    foreign? k t = some (if t.origin.automaton = k then t.destination else t.origin) := by
  by_cases hx : t.origin.automaton = k
  · have hy : ¬ t.destination.automaton = k := fun hy => ht ⟨hx, hy⟩
    simp [foreign?, Transition.endpoints, hx, hy]
  · simp [foreign?, Transition.endpoints, hx]

theorem foreign?_of_within
    {k : Tag}
    {t : Transition σ}
    (ht : t.Within k) :
    foreign? k t = none := by
  simp [foreign?, Transition.endpoints, ht.1, ht.2]

variable [Symbol σ]

theorem obstacle?_of_frozen
    {T : Table σ}
    (hfrozen : T.frozen = true)
    (t : Transition σ) :
    T.obstacle? t = some (.frozenTable t.origin (Symbol.text t.symbol), []) := by
  simp [obstacle?, hfrozen]

theorem obstacle?_of_not_within
    {T : Table σ}
    {k : Tag}
    {t : Transition σ}
    (hopen : T.frozen = false)
    (howner : T.owner = some k)
    (ht : ¬ t.Within k) :
    T.obstacle? t =
      let x := if t.origin.automaton = k then t.destination else t.origin
      some (.foreignState x k, [.rejecting t x]) := by
  simp [obstacle?, hopen, howner, foreign?_of_not_within ht]

theorem obstacle?_of_within
    {T : Table σ}
    {t : Transition σ}
    (hopen : T.frozen = false)
    (ht : ∀ k, T.owner = some k → t.Within k) :
    T.obstacle? t = none := by
  cases howner : T.owner with
  | none =>
      simp [obstacle?, hopen, howner]
  | some k =>
      simp [obstacle?, hopen, howner, foreign?_of_within (ht k howner)]

/-- An open table has no objection to a batch of its owner's states. -/
theorem clear_of_within
    {T : Table σ}
    {batch : List (Transition σ)}
    (hopen : T.frozen = false)
    (hwithin : ∀ k, T.owner = some k → ∀ t ∈ batch, t.Within k) :
    T.Clear batch := by
  intro t ht
  exact obstacle?_of_within hopen fun k howner => hwithin k howner t ht

/-- How a batch stands to a table before anything of it is inserted. -/
inductive Admission (T : Table σ) : List (Transition σ) → Prop
  /-- The table is frozen and there is something to insert. -/
  | locked {t : Transition σ} {ts : List (Transition σ)} :
      T.frozen = true →
      Admission T (t :: ts)
  /-- A transition has a state of another automaton, and none before it has. -/
  | foreign {k : Tag} {before rest : List (Transition σ)} {t : Transition σ} :
      T.frozen = false →
      T.owner = some k →
      (∀ u ∈ before, u.Within k) →
      ¬ t.Within k →
      Admission T (before ++ t :: rest)
  /-- There is no obstacle to any transition. -/
  | clear {batch : List (Transition σ)} :
      T.Clear batch →
      Admission T batch

theorem admission
    (T : Table σ)
    (batch : List (Transition σ)) :
    Admission T batch := by
  cases hfrozen : T.frozen with
  | true =>
      cases batch with
      | nil =>
          refine .clear ?_
          intro t ht
          cases ht
      | cons t ts =>
          exact .locked hfrozen
  | false =>
      by_cases hwithin : ∀ k, T.owner = some k → ∀ t ∈ batch, t.Within k
      · exact .clear (clear_of_within hfrozen hwithin)
      · push Not at hwithin
        obtain ⟨k, howner, t, ht, hout⟩ := hwithin
        have hfind : (batch.find? fun u => ¬ u.Within k).isSome := by
          rw [List.find?_isSome]
          exact ⟨t, ht, by simpa using hout⟩
        obtain ⟨u, hu⟩ := Option.isSome_iff_exists.1 hfind
        obtain ⟨hout, before, rest, hbatch, hbefore⟩ := List.find?_eq_some_iff_append.1 hu
        rw [hbatch]
        refine .foreign hfrozen howner ?_ (by simpa using hout)
        intro v hv
        simpa using hbefore v hv

/-- The first of the obstacles decides when there is none before it. -/
theorem findSome?_obstacle?
    {T : Table σ}
    {before rest : List (Transition σ)}
    {t : Transition σ}
    (hbefore : T.Clear before) :
    (before ++ t :: rest).findSome? T.obstacle? =
      (T.obstacle? t).or (rest.findSome? T.obstacle?) := by
  have hnone : before.findSome? T.obstacle? = none :=
    List.findSome?_eq_none_iff.2 hbefore
  rw [List.findSome?_append, hnone, Option.none_or, List.findSome?_cons]
  cases T.obstacle? t <;> rfl

variable [DecidableEq σ]

theorem insertAll_of_locked
    {T : Table σ}
    (hfrozen : T.frozen = true)
    (t : Transition σ)
    (ts : List (Transition σ)) :
    T.insertAll (t :: ts) =
      ⟨T, .error (.frozenTable t.origin (Symbol.text t.symbol)), []⟩ := by
  apply insertAll_of_obstacle
  rw [List.findSome?_cons, obstacle?_of_frozen hfrozen t]

theorem insertAll_of_foreign
    {T : Table σ}
    {k : Tag}
    {before : List (Transition σ)}
    {t : Transition σ}
    (hopen : T.frozen = false)
    (howner : T.owner = some k)
    (hbefore : ∀ u ∈ before, u.Within k)
    (ht : ¬ t.Within k)
    (rest : List (Transition σ)) :
    T.insertAll (before ++ t :: rest) =
      let x := if t.origin.automaton = k then t.destination else t.origin
      ⟨T, .error (.foreignState x k), [.rejecting t x]⟩ := by
  apply insertAll_of_obstacle
  have hclear : T.Clear before := by
    refine clear_of_within hopen fun k' howner' => ?_
    rw [howner] at howner'
    cases howner'
    exact hbefore
  rw [findSome?_obstacle? hclear, obstacle?_of_not_within hopen howner ht, Option.some_or]

/-- A batch without obstacles can only fail for its conflicts. -/
theorem result_of_clear
    {T : Table σ}
    {batch : List (Transition σ)}
    (hclear : T.Clear batch) :
    (∃ n, (T.insertAll batch).result = .ok n) ∨
      ∃ cs, (T.insertAll batch).result = .error (.conflicts cs) := by
  rw [result_insertAll_of_clear hclear]
  split
  · exact Or.inl ⟨_, rfl⟩
  · exact Or.inr ⟨_, rfl⟩

theorem error_of_clear
    {T : Table σ}
    {batch : List (Transition σ)}
    {e : Error}
    (hclear : T.Clear batch)
    (h : (T.insertAll batch).result = .error e) :
    ∃ cs, e = .conflicts cs := by
  rcases result_of_clear hclear with ⟨n, hok⟩ | ⟨cs, herror⟩
  · rw [hok] at h
    cases h
  · rw [herror] at h
    cases h
    exact ⟨cs, rfl⟩

theorem result_eq_frozenTable_iff
    {T : Table σ}
    {batch : List (Transition σ)}
    {x : StateId}
    {text : String} :
    (T.insertAll batch).result = .error (.frozenTable x text) ↔
      T.frozen = true ∧
        ∃ t ts, batch = t :: ts ∧ x = t.origin ∧ text = Symbol.text t.symbol := by
  constructor
  · intro h
    cases admission T batch with
    | @locked t ts hfrozen =>
        rw [insertAll_of_locked hfrozen] at h
        cases h
        exact ⟨hfrozen, t, ts, rfl, rfl, rfl⟩
    | foreign hopen howner hbefore ht =>
        rw [insertAll_of_foreign hopen howner hbefore ht] at h
        cases h
    | clear hclear =>
        obtain ⟨cs, hcs⟩ := error_of_clear hclear h
        cases hcs
  · rintro ⟨hfrozen, t, ts, rfl, rfl, rfl⟩
    rw [insertAll_of_locked hfrozen]

theorem result_eq_foreignState_iff
    {T : Table σ}
    {batch : List (Transition σ)}
    {x : StateId}
    {k : Tag} :
    (T.insertAll batch).result = .error (.foreignState x k) ↔
      T.frozen = false ∧ T.owner = some k ∧
        ∃ before t rest,
          batch = before ++ t :: rest ∧ (∀ u ∈ before, u.Within k) ∧ ¬ t.Within k ∧
            x = if t.origin.automaton = k then t.destination else t.origin := by
  constructor
  · intro h
    cases admission T batch with
    | locked hfrozen =>
        rw [insertAll_of_locked hfrozen] at h
        cases h
    | @foreign k before rest t hopen howner hbefore ht =>
        rw [insertAll_of_foreign hopen howner hbefore ht] at h
        cases h
        exact ⟨hopen, howner, before, t, rest, rfl, hbefore, ht, rfl⟩
    | clear hclear =>
        obtain ⟨cs, hcs⟩ := error_of_clear hclear h
        cases hcs
  · rintro ⟨hopen, howner, before, t, rest, rfl, hbefore, ht, rfl⟩
    rw [insertAll_of_foreign hopen howner hbefore ht]

/-- A batch is refused for the lock exactly if the table is frozen and the batch has a first
transition, which is then named; it is refused for a state of another automaton exactly if the
table is open and some transition has such a state, and of the first such transition the origin is
named if it is foreign and else the destination.  A refused batch leaves the table as it was.  A
batch that is not refused leaves the table that its transitions make one after the other, of which
none is stopped, and it fails for nothing but conflicts. -/
theorem insertAll_all_or_nothing
    (T : Table σ)
    (batch : List (Transition σ)) :
    (∀ x text,
      (T.insertAll batch).result = .error (.frozenTable x text) ↔
        T.frozen = true ∧
          ∃ t ts, batch = t :: ts ∧ x = t.origin ∧ text = Symbol.text t.symbol) ∧
    (∀ x k,
      (T.insertAll batch).result = .error (.foreignState x k) ↔
        T.frozen = false ∧ T.owner = some k ∧
          ∃ before t rest,
            batch = before ++ t :: rest ∧ (∀ u ∈ before, u.Within k) ∧ ¬ t.Within k ∧
              x = if t.origin.automaton = k then t.destination else t.origin) ∧
    ((∃ x text, (T.insertAll batch).result = .error (.frozenTable x text)) ∨
        (∃ x k, (T.insertAll batch).result = .error (.foreignState x k)) →
      (T.insertAll batch).table = T) ∧
    (¬ (∃ x text, (T.insertAll batch).result = .error (.frozenTable x text)) →
      ¬ (∃ x k, (T.insertAll batch).result = .error (.foreignState x k)) →
      (T.insertAll batch).table = (T.insertEach batch).table ∧
        (T.insertEach batch).stopped = none ∧
        ((∃ n, (T.insertAll batch).result = .ok n) ∨
          ∃ cs, (T.insertAll batch).result = .error (.conflicts cs))) := by
  refine ⟨fun x text => result_eq_frozenTable_iff, fun x k => result_eq_foreignState_iff, ?_, ?_⟩
  · rintro (⟨x, text, h⟩ | ⟨x, k, h⟩)
    · obtain ⟨hfrozen, t, ts, rfl, -⟩ := result_eq_frozenTable_iff.1 h
      rw [insertAll_of_locked hfrozen]
    · obtain ⟨hopen, howner, before, t, rest, rfl, hbefore, ht, -⟩ :=
        result_eq_foreignState_iff.1 h
      rw [insertAll_of_foreign hopen howner hbefore ht]
  · intro hlocked hforeign
    cases admission T batch with
    | locked hfrozen =>
        rw [insertAll_of_locked hfrozen] at hlocked
        exact absurd ⟨_, _, rfl⟩ hlocked
    | foreign hopen howner hbefore ht =>
        rw [insertAll_of_foreign hopen howner hbefore ht] at hforeign
        exact absurd ⟨_, _, rfl⟩ hforeign
    | clear hclear =>
        exact ⟨table_insertAll_of_clear hclear, (course_insertEach hclear).stopped,
          result_of_clear hclear⟩

end Table

end GotoAutomaton
