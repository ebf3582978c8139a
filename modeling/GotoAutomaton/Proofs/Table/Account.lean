import GotoAutomaton.Proofs.Table.Composition
import GotoAutomaton.Proofs.Table.Index

/-!
# The account of a batch

The log of a batch can be read as an account of what was done with each of its transitions.  A batch
without obstacles has one event for each transition, in batch order, and the event tells what the
transition met at its turn, which may be something that the batch itself put there; one more event
closes the account if there was a conflict.  From the events alone one knows by which transitions
the table grew and which conflicts were returned.

Main statement: `insertAll_accounts`.
-/

namespace GotoAutomaton

variable {σ : Type}

namespace Event

/-- The transition that became part of the table. -/
def entered? : Event σ → Option (Transition σ)
  | .inserting t => some t
  | _ => none

/-- The conflict for which an insertion was refused. -/
def refused? : Event σ → Option Conflict
  | .refusing c => some c
  | _ => none

end Event

variable [DecidableEq σ] [Symbol σ]

/-- An event accounts for a transition between two tables: it says that the transition is new, that
it was there, or that it is refused for the destination that the table has instead; and so it was,
and so it is put in the log. -/
inductive Event.Accounts (T : Table σ) (t : Transition σ) (U : Table σ) : Event σ → Prop
  | inserting :
      U.toList = T.toList ++ [t] →
      (Event.inserting t).line = logLine .debug ("Inserting " ++ t.text) →
      Event.Accounts T t U (.inserting t)
  | alreadyPresent :
      t ∈ T.toList →
      U = T →
      (Event.alreadyPresent t).line = logLine .debug ("Already present: " ++ t.text) →
      Event.Accounts T t U (.alreadyPresent t)
  | refusing {c : Conflict} :
      c.Reports T t →
      c.existing ≠ c.rejected →
      U = T →
      (Event.refusing c : Event σ).line = logLine .warn c.text →
      Event.Accounts T t U (.refusing c)

/-- What closes the account of a batch: nothing without conflicts, and otherwise a warning with
their number and the number of new transitions. -/
inductive Event.Close (conflicts : List Conflict) (growth : Nat) : List (Event σ) → Prop
  | quiet :
      conflicts = [] →
      Event.Close conflicts growth []
  | summary :
      conflicts ≠ [] →
      (Event.batchRefusals conflicts.length growth : Event σ).line =
        logLine .warn (conflicts.length.repr ++ " conflict(s) while inserting, " ++
          growth.repr ++ " transition(s) added") →
      Event.Close conflicts growth [.batchRefusals conflicts.length growth]

namespace Table

/-- There is one event for each transition. -/
theorem Course.length_events
    {T : Table σ}
    {batch : List (Transition σ)}
    {p : Progress σ}
    (hcourse : Course T batch p) :
    p.events.length = batch.length := by
  induction hcourse with
  | nil =>
      rfl
  | new _ _ ih =>
      simp [ih]
  | known _ _ ih =>
      simp [ih]
  | refused _ _ _ ih =>
      simp [ih]

/-- The table grows by the transitions of which the events say that they are new. -/
theorem Course.toList_eq
    {T : Table σ}
    {batch : List (Transition σ)}
    {p : Progress σ}
    (hcourse : Course T batch p) :
    p.table.toList = T.toList ++ p.events.filterMap Event.entered? := by
  induction hcourse with
  | nil =>
      simp
  | new _ _ ih =>
      simp [ih, Event.entered?]
  | known _ _ ih =>
      simp [ih, List.filterMap_cons, Event.entered?]
  | refused _ _ _ ih =>
      simp [ih, List.filterMap_cons, Event.entered?]

/-- The conflicts are those of which the events say that they were in the way. -/
theorem Course.filterMap_refused?_events
    {T : Table σ}
    {batch : List (Transition σ)}
    {p : Progress σ}
    (hcourse : Course T batch p) :
    p.events.filterMap Event.refused? = p.refused := by
  induction hcourse with
  | nil =>
      rfl
  | new _ _ ih =>
      simp [ih, List.filterMap_cons, Event.refused?]
  | known _ _ ih =>
      simp [ih, List.filterMap_cons, Event.refused?]
  | refused _ _ _ ih =>
      simp [ih, Event.refused?]

/-- A single transition is accounted for by its event. -/
theorem Course.exists_accounts
    {T : Table σ}
    {t : Transition σ}
    {p : Progress σ}
    (hT : T.Indexed)
    (hcourse : Course T [t] p) :
    ∃ e, p.events = [e] ∧ e.Accounts T t p.table := by
  cases hcourse with
  | new hlookup hrest =>
      cases hrest
      exact ⟨_, rfl, .inserting (T.toList_push t) rfl⟩
  | known hlookup hrest =>
      cases hrest
      exact ⟨_, rfl, .alreadyPresent (hT.lookup_eq_some_iff.1 hlookup) rfl rfl⟩
  | refused hlookup hy hrest =>
      cases hrest
      exact ⟨_, rfl, .refusing ⟨rfl, rfl, hlookup, rfl⟩ hy rfl rfl⟩

/-- In the course of a batch each transition is accounted for at its turn. -/
theorem exists_accounts_insertEach
    {T : Table σ}
    {before after : List (Transition σ)}
    {t : Transition σ}
    (hindexed : (T.insertEach before).table.Indexed)
    (hclear : T.Clear (before ++ [t] ++ after)) :
    ∃ e, (T.insertEach (before ++ [t] ++ after)).events[before.length]? = some e ∧
      e.Accounts (T.insertEach before).table t (T.insertEach (before ++ [t])).table := by
  have hfirst : T.Clear (before ++ [t]) := (clear_append_iff.1 hclear).1
  obtain ⟨hbefore, hturn⟩ := clear_append_iff.1 hfirst
  have hcourse := course_insertEach hbefore
  obtain ⟨e, he, haccounts⟩ :=
    (course_insertEach (hcourse.clear hturn)).exists_accounts hindexed
  refine ⟨e, ?_, ?_⟩
  · rw [insertEach_append hclear, insertEach_append hfirst]
    simp [Progress.append, he, hcourse.length_events]
  · rw [insertEach_append hfirst]
    exact haccounts

/-- At the end of a batch its account is closed. -/
theorem exists_close_insertAll
    {T : Table σ}
    {batch : List (Transition σ)}
    (hclear : T.Clear batch) :
    ∃ closing, (T.insertAll batch).events = (T.insertEach batch).events ++ closing ∧
      Event.Close (T.insertEach batch).refused (T.insertEach batch).added closing := by
  rw [insertAll_of_clear hclear]
  dsimp only
  split
  · next hquiet =>
      exact ⟨[], (List.append_nil _).symm, .quiet hquiet⟩
  · next hrefused =>
      exact ⟨_, rfl, .summary hrefused rfl⟩

/-- The log of a batch accounts for it.  If the table is open and the batch has no states that the
owner does not know, there is one event for each of its transitions, in batch order, which says what
was done with the transition at its turn, when all before it in the batch had been inserted.  One
more event closes the account exactly if there was a conflict; its numbers are those of the returned
conflicts and of the transitions by which the table grew.  What the events say to be new are, in
their order, the transitions that the table has more, and the conflicts of which they say that they
were in the way are, in their order, the returned ones.  A batch that is refused for a state of
another automaton has one event, which is a warning, and one that is refused by a frozen table has
none. -/
theorem insertAll_accounts
    {T : Table σ}
    (hT : T.Reachable)
    (batch : List (Transition σ)) :
    let o := T.insertAll batch
    let growth := o.table.size - T.size
    (T.frozen = false → (∀ k, T.owner = some k → ∀ t ∈ batch, t.Within k) →
      ∃ es closing cs,
        o.events = es ++ closing ∧
        es.length = batch.length ∧
        (∀ before t after, batch = before ++ [t] ++ after →
          ∃ e, es[before.length]? = some e ∧
            e.Accounts (T.insertAll before).table t (T.insertAll (before ++ [t])).table) ∧
        Event.Close cs growth closing ∧
        o.table.toList = T.toList ++ es.filterMap Event.entered? ∧
        es.filterMap Event.refused? = cs ∧
        o.result = if cs = [] then .ok growth else .error (.conflicts cs)) ∧
    (∀ x k, o.result = .error (.foreignState x k) →
      ∃ t ∈ batch, o.events = [.rejecting t x] ∧
        (Event.rejecting t x).line =
          logLine .warn ("Rejecting " ++ t.text ++ ": " ++ x.text ++ " is foreign")) ∧
    (∀ x text, o.result = .error (.frozenTable x text) → o.events = []) := by
  intro o growth
  refine ⟨?_, ?_, ?_⟩
  · intro hopen hwithin
    have hclear : T.Clear batch := clear_of_within hopen hwithin
    have hcourse := course_insertEach hclear
    have htable : o.table = (T.insertEach batch).table := table_insertAll_of_clear hclear
    have hgrowth : growth = (T.insertEach batch).added := by
      have hsize := hcourse.size_eq
      rw [← htable] at hsize
      omega
    obtain ⟨closing, hevents, hclosing⟩ := exists_close_insertAll hclear
    refine ⟨(T.insertEach batch).events, closing, (T.insertEach batch).refused, hevents,
      hcourse.length_events, ?_, hgrowth ▸ hclosing, htable ▸ hcourse.toList_eq,
      hcourse.filterMap_refused?_events, hgrowth ▸ result_insertAll_of_clear hclear⟩
    intro before t after hbatch
    rw [hbatch] at hclear ⊢
    have hfirst : T.Clear (before ++ [t]) := (clear_append_iff.1 hclear).1
    have hbefore : T.Clear before := (clear_append_iff.1 hfirst).1
    have hindexed : (T.insertAll before).table.Indexed := (hT.after [.insertAll before]).indexed
    rw [table_insertAll_of_clear hfirst]
    rw [table_insertAll_of_clear hbefore] at hindexed ⊢
    exact exists_accounts_insertEach hindexed hclear
  · intro x k hresult
    obtain ⟨hopen, howner, before, t, rest, rfl, hbefore, ht, rfl⟩ :=
      result_eq_foreignState_iff.1 hresult
    refine ⟨t, by simp, ?_, rfl⟩
    exact congrArg Outcome.events (insertAll_of_foreign hopen howner hbefore ht rest)
  · intro x text hresult
    obtain ⟨hfrozen, t, ts, rfl, -⟩ := result_eq_frozenTable_iff.1 hresult
    exact congrArg Outcome.events (insertAll_of_locked hfrozen t ts)

/-- A batch with a new transition, a rival of it and a known one; one with a state of another
automaton; and one that comes too late. -/
theorem insertAll_accounts_rival :
    let q : StateId := ⟨.first, 0⟩
    let q' : StateId := ⟨.first, 1⟩
    let stranger : StateId := ⟨.next .first, 0⟩
    let T := (make (.owned (.empty .first)) : Table Char).after [.add q 'a' q]
    let batch := [⟨q, 'b', q'⟩, ⟨q, 'b', q⟩, ⟨q, 'a', q⟩]
    T.Reachable ∧ T.frozen = false ∧ (∀ k, T.owner = some k → ∀ t ∈ batch, t.Within k) ∧
      (∃ es e, (T.insertAll batch).events = es ++ [.batchRefusals 1 1] ∧ es[1]? = some e ∧
        e.Accounts (T.insertAll [⟨q, 'b', q'⟩]).table ⟨q, 'b', q⟩
          (T.insertAll [⟨q, 'b', q'⟩, ⟨q, 'b', q⟩]).table ∧
        es.filterMap Event.refused? = [⟨q, "b", q', q⟩]) ∧
      (T.insertAll [⟨q, 'a', q⟩, ⟨q, 'c', stranger⟩]).result =
        .error (.foreignState stranger .first) ∧
      (∃ t, (T.insertAll [⟨q, 'a', q⟩, ⟨q, 'c', stranger⟩]).events = [.rejecting t stranger]) ∧
      (T.freeze.1.insertAll batch).result = .error (.frozenTable q "b") ∧
      (T.freeze.1.insertAll batch).events = [] := by
  intro q q' stranger T batch
  have hT : T.Reachable := (reachable_make _).after _
  have hopen : T.frozen = false := by decide
  have hwithin : ∀ k, T.owner = some k → ∀ t ∈ batch, t.Within k := by
    intro k hk
    cases hk
    decide
  have hreturned : (T.insertAll batch).result = .error (.conflicts [⟨q, "b", q', q⟩]) := by
    decide
  have hforeign : (T.insertAll [⟨q, 'a', q⟩, ⟨q, 'c', stranger⟩]).result =
      .error (.foreignState stranger .first) := by
    decide
  have hlocked : (T.freeze.1.insertAll batch).result = .error (.frozenTable q "b") := by
    decide
  have hgrowth : (T.insertAll batch).table.size - T.size = 1 := by decide
  obtain ⟨haccount, _, _⟩ := insertAll_accounts hT batch
  obtain ⟨es, closing, cs, hevents, _, hturn, hclosing, _, hrefused, hresult⟩ :=
    haccount hopen hwithin
  obtain ⟨e, he, haccounts⟩ := hturn [⟨q, 'b', q'⟩] ⟨q, 'b', q⟩ [⟨q, 'a', q⟩] rfl
  have hcs : cs = [⟨q, "b", q', q⟩] := by
    rw [hreturned] at hresult
    split at hresult
    · cases hresult
    · cases hresult
      rfl
  subst hcs
  obtain ⟨_, hforeignLog, _⟩ := insertAll_accounts hT [⟨q, 'a', q⟩, ⟨q, 'c', stranger⟩]
  obtain ⟨t, _, hrejecting, _⟩ := hforeignLog stranger .first hforeign
  obtain ⟨_, _, hlockedLog⟩ := insertAll_accounts (hT.after [.freeze]) batch
  refine ⟨hT, hopen, hwithin, ⟨es, e, ?_, he, haccounts, hrefused⟩, hforeign, ⟨t, hrejecting⟩,
    hlocked, hlockedLog q "b" hlocked⟩
  cases hclosing with
  | quiet hquiet =>
      cases hquiet
  | summary _ _ =>
      rw [hevents]
      exact congrArg (fun n => es ++ [Event.batchRefusals 1 n]) hgrowth

end Table
end GotoAutomaton
