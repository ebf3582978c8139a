import GotoAutomaton.Analysis
import GotoAutomaton.Proofs.Graph.Reach
import GotoAutomaton.Proofs.State.Registry

/-!
# Exactness of validation

A driver goes from the start through a table by look-ups alone.  Validation searches a graph
instead, and lists what it finds; yet the lists say exactly what the driver can and cannot do.

Main statement: the two lists of a validation and its result, in terms of words
(`validate_exact`).
-/

namespace GotoAutomaton

namespace Report

theorem isComplete_iff (p : Report) :
    p.isComplete = true ↔ p.foreign = [] ∧ p.unreachable = [] := by
  simp [isComplete]

theorem toResult_eq_ok_iff (p : Report) : p.toResult = .ok () ↔ p.isComplete = true := by
  unfold toResult
  split <;> simp_all

theorem toResult_of_isComplete_eq_false
    {p : Report}
    (hp : p.isComplete = false) :
    p.toResult = .error (.incomplete p.foreign p.unreachable) := by
  simp [toResult, hp]

end Report

namespace Table

variable {σ : Type} [DecidableEq σ]

/-- Some word can be followed from one state to the other. -/
def Leads (T : Table σ) (x y : StateId) : Prop :=
  ∃ w : List σ, T.follow x w = some y

/-- The start and the ends of all transitions are registered, and words lead to all registered
states. -/
structure Complete (T : Table σ) (r : Registry) (start : StateId) : Prop where
  start_registered : r.contains start = true
  ends_registered : ∀ t ∈ T.toList, ∀ x ∈ t.endpoints, r.contains x = true
  leads : ∀ x, r.contains x = true → T.Leads start x

omit [DecidableEq σ] in
theorem mem_mentioned
    {T : Table σ}
    {start x : StateId} :
    x ∈ T.mentioned start ↔ x = start ∨ ∃ t ∈ T.toList, x ∈ t.endpoints := by
  rw [mentioned, List.mem_cons, List.mem_flatMap]

omit [DecidableEq σ] in
theorem mem_foreign_validate
    (T : Table σ)
    (r : Registry)
    (start x : StateId) :
    x ∈ (T.validate r start).foreign ↔
      (x = start ∨ ∃ t ∈ T.toList, x ∈ t.endpoints) ∧ r.contains x = false := by
  simp only [validate, StateId.mem_sort, mem_distinct, List.mem_filter, mem_mentioned,
    Bool.not_eq_true']

omit [DecidableEq σ] in
theorem pairwise_foreign_validate
    (T : Table σ)
    (r : Registry)
    (start : StateId) :
    (T.validate r start).foreign.Pairwise StateId.Precedes :=
  StateId.pairwise_precedes_sort (nodup_distinct _)

/-- A registered state is out of reach if no word leads to it. -/
theorem Indexed.mem_unreachable_validate
    {T : Table σ}
    {r : Registry}
    (hT : T.Indexed)
    (hr : r.Reachable)
    (start x : StateId) :
    x ∈ (T.validate r start).unreachable ↔ r.contains x = true ∧ ¬ T.Leads start x := by
  simp only [validate, List.mem_filter, hr.mem_ids_iff, decide_eq_true_eq,
    hT.mem_reachableFrom_iff, Leads]

theorem Indexed.isComplete_validate_iff
    {T : Table σ}
    {r : Registry}
    (hT : T.Indexed)
    (hr : r.Reachable)
    (start : StateId) :
    (T.validate r start).isComplete = true ↔ T.Complete r start := by
  rw [Report.isComplete_iff, List.eq_nil_iff_forall_not_mem, List.eq_nil_iff_forall_not_mem]
  simp only [mem_foreign_validate, hT.mem_unreachable_validate hr]
  constructor
  · rintro ⟨hforeign, hunreachable⟩
    have hregistered (x : StateId) (hx : x = start ∨ ∃ t ∈ T.toList, x ∈ t.endpoints) :
        r.contains x = true := by
      by_contra hcontains
      exact hforeign x ⟨hx, by simpa using hcontains⟩
    refine ⟨hregistered start (Or.inl rfl), ?_, ?_⟩
    · intro t ht x hx
      exact hregistered x (Or.inr ⟨t, ht, hx⟩)
    · intro x hx
      by_contra hleads
      exact hunreachable x ⟨hx, hleads⟩
  · intro hcomplete
    refine ⟨?_, ?_⟩
    · rintro x ⟨hx, hcontains⟩
      rcases hx with rfl | ⟨t, ht, hx⟩
      · rw [hcomplete.start_registered] at hcontains
        cases hcontains
      · rw [hcomplete.ends_registered t ht x hx] at hcontains
        cases hcontains
    · rintro x ⟨hx, hleads⟩
      exact hleads (hcomplete.leads x hx)

variable [Symbol σ]

/-- Validation is exact.  The states out of reach are the registered ones to which no word leads
from the start, in the order of registration and each once; the foreign states are those among the
start and the ends of transitions that are not registered, in strictly ascending order; and the
report is complete, and no failure, exactly if there are neither. -/
theorem validate_exact
    {T : Table σ}
    {r : Registry}
    (hT : T.Reachable)
    (hr : r.Reachable)
    (start : StateId) :
    let p := T.validate r start
    (p.unreachable.Sublist r.ids ∧ p.unreachable.Nodup ∧
      ∀ x, x ∈ p.unreachable ↔ r.contains x = true ∧ ¬ T.Leads start x) ∧
    (p.foreign.Pairwise StateId.Precedes ∧
      ∀ x, x ∈ p.foreign ↔
        (x = start ∨ ∃ t ∈ T.toList, x ∈ t.endpoints) ∧ r.contains x = false) ∧
    (p.isComplete = true ↔ T.Complete r start) ∧
    (p.toResult = .ok () ↔ T.Complete r start) ∧
    (¬ T.Complete r start → p.toResult = .error (.incomplete p.foreign p.unreachable)) := by
  intro p
  have hcomplete : p.isComplete = true ↔ T.Complete r start :=
    hT.indexed.isComplete_validate_iff hr start
  refine ⟨⟨?_, ?_, ?_⟩, ⟨?_, ?_⟩, hcomplete, ?_, ?_⟩
  · exact List.filter_sublist
  · exact hr.nodup_ids.filter _
  · exact hT.indexed.mem_unreachable_validate hr start
  · exact T.pairwise_foreign_validate r start
  · exact T.mem_foreign_validate r start
  · rw [Report.toResult_eq_ok_iff, hcomplete]
  · intro hincomplete
    apply Report.toResult_of_isComplete_eq_false
    rw [← hcomplete, Bool.not_eq_true] at hincomplete
    exact hincomplete

/-- With two registered states, of which the start leads to the other, and a transition to a state
of another automaton, the report lists that state only. -/
theorem validate_exact_detour :
    let q : StateId := ⟨.first, 0⟩
    let q' : StateId := ⟨.first, 1⟩
    let z : StateId := ⟨Tag.first.next, 5⟩
    let T := (make .unowned : Table Char).after [.add q 'a' z, .add z 'b' q']
    let r := ((Registry.empty .first).add none).add (some "end")
    T.Reachable ∧ r.Reachable ∧
      z ∈ (T.validate r q).foreign ∧ q' ∉ (T.validate r q).unreachable ∧
      (T.validate r q).isComplete = false := by
  intro q q' z T r
  have hT : T.Reachable := ⟨.unowned, _, rfl⟩
  have hr : r.Reachable := .add _ (.add _ (.empty _))
  obtain ⟨⟨_, _, hunreachable⟩, ⟨_, hforeign⟩, hcomplete, _, _⟩ := validate_exact hT hr q
  have hz : r.contains z = false := by decide
  have hends : ∃ t ∈ T.toList, z ∈ t.endpoints := ⟨⟨q, 'a', z⟩, by decide, by decide⟩
  refine ⟨hT, hr, ?_, ?_, ?_⟩
  · exact (hforeign z).2 ⟨Or.inr hends, hz⟩
  · intro hq
    exact ((hunreachable q').1 hq).2 ⟨['a', 'b'], by decide⟩
  · rw [← Bool.not_eq_true, hcomplete]
    intro h
    obtain ⟨t, ht, hend⟩ := hends
    rw [h.ends_registered t ht z hend] at hz
    cases hz

end Table
end GotoAutomaton
