import GotoAutomaton.Proofs.Analysis.Completeness
import GotoAutomaton.Proofs.State.Registry
import GotoAutomaton.Proofs.Table.Growth

/-!
# Validation of growing tables

A history puts transitions behind those that a table has.  The graph of the longer table may number
its nodes otherwise, and the search in it may visit them in another order; but what a report lists
is told by the words that can be followed and by the ends of transitions.  A word that could be
followed can be followed still, so no state gets out of reach, and an end stays an end, so no state
stops being foreign.

Main statement: `validate_after_mono`.
-/

namespace GotoAutomaton
namespace Table

variable {σ : Type} {T U : Table σ}

/-- More transitions make foreign what they mention and the registry does not contain. -/
theorem mem_foreign_validate_of_append
    {new : List (Transition σ)}
    (hlist : U.toList = T.toList ++ new)
    (r : Registry)
    (start x : StateId) :
    x ∈ (U.validate r start).foreign ↔
      x ∈ (T.validate r start).foreign ∨
        (∃ t ∈ new, x ∈ t.endpoints) ∧ r.contains x = false := by
  have hends : (∃ t ∈ U.toList, x ∈ t.endpoints) ↔
      (∃ t ∈ T.toList, x ∈ t.endpoints) ∨ ∃ t ∈ new, x ∈ t.endpoints := by
    simp only [hlist, List.mem_append, or_and_right, exists_or]
  rw [mem_foreign_validate, mem_foreign_validate, hends, ← or_and_right, or_assoc]

/-- The foreign states of a table are foreign to a longer one, in the same order. -/
theorem foreign_validate_sublist
    (hlist : T.toList <+: U.toList)
    (r : Registry)
    (start : StateId) :
    (T.validate r start).foreign.Sublist (U.validate r start).foreign := by
  obtain ⟨new, hnew⟩ := hlist
  refine StateId.sublist_of_pairwise_precedes (T.pairwise_foreign_validate r start)
    (U.pairwise_foreign_validate r start) ?_
  intro x hx
  exact (mem_foreign_validate_of_append hnew.symm r start x).2 (Or.inl hx)

variable [DecidableEq σ]

/-- A word that can be followed in a table can be followed in a longer one, to the same state. -/
theorem Indexed.follow_of_prefix
    (hT : T.Indexed)
    (hU : U.Indexed)
    (hlist : T.toList <+: U.toList)
    {x y : StateId}
    {w : List σ}
    (h : T.follow x w = some y) :
    U.follow x w = some y := by
  induction w generalizing x with
  | nil =>
      exact h
  | cons a w ih =>
      rw [follow, Option.bind_eq_some_iff] at h ⊢
      obtain ⟨z, hz, hw⟩ := h
      exact ⟨z, hT.lookup_of_prefix hU hlist hz, ih hw⟩

theorem Indexed.leads_of_prefix
    (hT : T.Indexed)
    (hU : U.Indexed)
    (hlist : T.toList <+: U.toList)
    {x y : StateId}
    (h : T.Leads x y) :
    U.Leads x y := by
  obtain ⟨w, hw⟩ := h
  exact ⟨w, hT.follow_of_prefix hU hlist hw⟩

/-- The states out of reach in a longer table are so in a shorter one, in the same order. -/
theorem Indexed.unreachable_validate_sublist
    (hT : T.Indexed)
    (hU : U.Indexed)
    (hlist : T.toList <+: U.toList)
    (r : Registry)
    (start : StateId) :
    (U.validate r start).unreachable.Sublist (T.validate r start).unreachable := by
  refine List.monotone_filter_right r.ids fun x hx => ?_
  rw [decide_eq_true_eq, hU.mem_reachableFrom_iff] at hx
  rw [decide_eq_true_eq, hT.mem_reachableFrom_iff]
  intro hleads
  exact hx (hT.leads_of_prefix hU hlist hleads)

/-- What is out of reach stays so unless some word now leads there. -/
theorem Indexed.mem_unreachable_validate_of_prefix
    (hT : T.Indexed)
    (hU : U.Indexed)
    (hlist : T.toList <+: U.toList)
    {r : Registry}
    (hr : r.Reachable)
    (start x : StateId) :
    x ∈ (U.validate r start).unreachable ↔
      x ∈ (T.validate r start).unreachable ∧ ¬ U.Leads start x := by
  rw [hU.mem_unreachable_validate hr, hT.mem_unreachable_validate hr, and_assoc]
  refine and_congr_right fun _ => ?_
  constructor
  · intro hleads
    exact ⟨fun h => hleads (hT.leads_of_prefix hU hlist h), hleads⟩
  · exact And.right

/-- A complete table with more transitions is complete if their ends are registered. -/
theorem Complete.iff_of_append
    {r : Registry}
    {start : StateId}
    (hcomplete : T.Complete r start)
    (hT : T.Indexed)
    (hU : U.Indexed)
    {new : List (Transition σ)}
    (hlist : U.toList = T.toList ++ new) :
    U.Complete r start ↔ ∀ t ∈ new, ∀ x ∈ t.endpoints, r.contains x = true := by
  have hprefix : T.toList <+: U.toList := ⟨new, hlist.symm⟩
  constructor
  · intro hlonger t ht
    exact hlonger.ends_registered t (hlist ▸ List.mem_append_right T.toList ht)
  · intro hends
    refine ⟨hcomplete.start_registered, ?_, ?_⟩
    · intro t ht
      rw [hlist, List.mem_append] at ht
      rcases ht with ht | ht
      · exact hcomplete.ends_registered t ht
      · exact hends t ht
    · intro x hx
      exact hT.leads_of_prefix hU hprefix (hcomplete.leads x hx)

variable [Symbol σ]

/-- Validation is monotone in the table.  After any history, of which changes may have been refused,
the states out of reach are those that were out of reach before and to which no word leads now, in
their order.  The history has put some of the transitions that were handed to it behind the others.
All states that were foreign still are, in their order, and so are those ends of the new transitions
that are not registered; a complete automaton stays complete exactly if there are none. -/
theorem validate_after_mono
    {T : Table σ}
    {r : Registry}
    (hT : T.Reachable)
    (hr : r.Reachable)
    (start : StateId)
    (cs : List (Change σ)) :
    let U := T.after cs
    let p := T.validate r start
    let q := U.validate r start
    q.unreachable.Sublist p.unreachable ∧
    (∀ x, x ∈ q.unreachable ↔ x ∈ p.unreachable ∧ ¬ U.Leads start x) ∧
    p.foreign.Sublist q.foreign ∧
    ∃ new, new.Sublist (cs.flatMap Change.transitions) ∧ U.toList = T.toList ++ new ∧
      (∀ x, x ∈ q.foreign ↔
        x ∈ p.foreign ∨ (∃ t ∈ new, x ∈ t.endpoints) ∧ r.contains x = false) ∧
      (p.isComplete = true →
        (q.isComplete = true ↔ ∀ t ∈ new, ∀ x ∈ t.endpoints, r.contains x = true)) := by
  intro U p q
  have hU : U.Indexed := (hT.after cs).indexed
  obtain ⟨new, hnew, hlist⟩ := T.exists_toList_after cs
  have hprefix : T.toList <+: U.toList := ⟨new, hlist.symm⟩
  refine ⟨?_, ?_, foreign_validate_sublist hprefix r start, new, hnew, hlist, ?_, ?_⟩
  · exact hT.indexed.unreachable_validate_sublist hU hprefix r start
  · exact hT.indexed.mem_unreachable_validate_of_prefix hU hprefix hr start
  · exact mem_foreign_validate_of_append hlist r start
  · intro hcomplete
    rw [hT.indexed.isComplete_validate_iff hr] at hcomplete
    rw [hU.isComplete_validate_iff hr]
    exact hcomplete.iff_of_append hT.indexed hU hlist

/-- A complete automaton stays so over a rival, a known transition, a new one and one that a frozen
table refuses; with a transition to a state of another automaton it does not. -/
theorem validate_after_mono_refused :
    let q : StateId := ⟨.first, 0⟩
    let q' : StateId := ⟨.first, 1⟩
    let z : StateId := ⟨Tag.first.next, 0⟩
    let r := ((Registry.empty .first).add none).add (some "end")
    let T := (make .unowned : Table Char).after [.add q 'a' q']
    let cs : List (Change Char) :=
      [.insertAll [⟨q, 'a', q⟩, ⟨q, 'a', q'⟩, ⟨q', 'b', q⟩], .freeze, .add q 'c' z]
    let ds : List (Change Char) := [.add q 'a' z, .add q' 'b' z]
    T.Reachable ∧ r.Reachable ∧ (T.validate r q).isComplete = true ∧
      ((T.after cs).validate r q).isComplete = true ∧
      z ∈ ((T.after ds).validate r q).foreign ∧
      ((T.after ds).validate r q).isComplete = false := by
  intro q q' z r T cs ds
  have hT : T.Reachable := (reachable_make _).after _
  have hr : r.Reachable := .add _ (.add _ (.empty _))
  have hcomplete : (T.validate r q).isComplete = true := by decide +kernel
  obtain ⟨_, _, _, new, _, hnew, _, hkept⟩ := validate_after_mono hT hr q cs
  obtain ⟨_, _, _, new', _, hnew', hforeign, hlost⟩ := validate_after_mono hT hr q ds
  have hcs : (T.after cs).toList = T.toList ++ [⟨q', 'b', q⟩] := by decide
  have hds : (T.after ds).toList = T.toList ++ [⟨q', 'b', z⟩] := by decide
  obtain rfl := List.append_cancel_left (hcs.symm.trans hnew)
  obtain rfl := List.append_cancel_left (hds.symm.trans hnew')
  refine ⟨hT, hr, hcomplete, (hkept hcomplete).2 (by decide), ?_, ?_⟩
  · exact (hforeign z).2 (Or.inr (by decide))
  · rw [← Bool.not_eq_true, hlost hcomplete]
    decide

end Table
end GotoAutomaton
