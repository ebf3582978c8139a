import GotoAutomaton.Proofs.Analysis.Completeness
import GotoAutomaton.Proofs.Session.Identity
import Mathlib.Data.List.Induction

/-!
# Owned tables in a session

A table that is owned looks at tags only, never at positions.  This is enough as long as the
identifiers that are handed to tables come from registries: such an identifier is in the registry
that has its tag, and no other registry has this tag.

Main statement: the ends of the transitions of a table that was made for a registry are states of
this registry, at every time (`owned_ends_contained`).
-/

namespace GotoAutomaton

section Operations

variable {σ : Type}

/-- The identifiers in an answer about registries.  The identifier in a refusal is the one that was
asked about, and does not count. -/
def Answer.registered : Answer σ → List StateId
  | .registry _ _ xs => xs
  | .stateAdded x _ => [x]
  | .statesAdded xs _ => xs
  | .state found => found.toList.map State.id
  | .registryInfo _ states => states.map State.id
  | _ => []

/-- The identifiers that an operation gives out, as its answer tells; only registries give out
any. -/
def Op.issues : Op σ → Answer σ → List StateId
  | .registry _, answer => answer.registered
  | _, _ => []

end Operations

namespace Session

variable {σ : Type}

/-- Some registry contains the identifier. -/
def Lists (s : Session σ) (x : StateId) : Prop :=
  ∃ (i : Nat) (r : Registry), s.registries[i]? = some r ∧ r.contains x = true

variable [DecidableEq σ] [Symbol σ]

/-- What operations give out, one after the other. -/
def issued (s : Session σ) : List (Op σ) → List StateId
  | [] => []
  | op :: ops => op.issues (s.step op).2.answer ++ (s.step op).1.issued ops

/-- No operation hands anything to a table that the operations before it have not given out. -/
def HandsIssued (s : Session σ) (ops : List (Op σ)) : Prop :=
  ∀ n < ops.length, ∀ op ∈ ops[n]?,
    ∀ t ∈ op.handed, ∀ x ∈ t.endpoints, x ∈ s.issued (ops.take n)

instance (s : Session σ) (ops : List (Op σ)) : Decidable (s.HandsIssued ops) :=
  inferInstanceAs (Decidable (∀ n < ops.length, ∀ op ∈ ops[n]?,
    ∀ t ∈ op.handed, ∀ x ∈ t.endpoints, x ∈ s.issued (ops.take n)))

/-- In the course of operations the table with the first number has been made for the automaton of
the registry with the second number, ownership to be checked, or is a copy of such a table. -/
inductive MadeFor (s : Session σ) : List (Op σ) → Nat → Nat → Prop
  | create {ops : List (Op σ)} {kind : TableKind} {i : Nat} {r : Registry} :
      kind.home? = some i →
      (s.after ops).registries[i]? = some r →
      MadeFor s (ops ++ [.table (.create kind)]) (s.after ops).tables.size i
  | copy {ops : List (Op σ)} {j i : Nat} :
      MadeFor s ops j i →
      MadeFor s (ops ++ [.table (.copy j)]) (s.after ops).tables.size i
  | later {ops : List (Op σ)} {op : Op σ} {j i : Nat} :
      MadeFor s ops j i →
      MadeFor s (ops ++ [op]) j i

theorem HandsIssued.of_append
    {s : Session σ}
    {before rest : List (Op σ)}
    (h : s.HandsIssued (before ++ rest)) :
    s.HandsIssued before := by
  intro n hn op hop t ht x hx
  have hop' : op ∈ (before ++ rest)[n]? := by
    rwa [List.getElem?_append_left hn]
  have hlength : n < (before ++ rest).length := by
    rw [List.length_append]
    omega
  have hgiven := h n hlength op hop' t ht x hx
  rwa [List.take_append_of_le_length (Nat.le_of_lt hn)] at hgiven

/-- What the last operation hands to a table has been given out by the operations before it. -/
theorem HandsIssued.mem_issued
    {s : Session σ}
    {ops : List (Op σ)}
    {op : Op σ}
    (h : s.HandsIssued (ops ++ [op]))
    {t : Transition σ}
    (ht : t ∈ op.handed)
    {x : StateId}
    (hx : x ∈ t.endpoints) :
    x ∈ s.issued ops := by
  have hgiven := h ops.length (by simp) op (by simp) t ht x hx
  rwa [List.take_left] at hgiven

theorem Lists.after
    {s : Session σ}
    {x : StateId}
    (h : s.Lists x)
    (ops : List (Op σ)) :
    (s.after ops).Lists x := by
  obtain ⟨i, r, hr, hx⟩ := h
  obtain ⟨r', hr', hgrows⟩ := exists_registry_after hr ops
  exact ⟨i, r', hr', hgrows.contains hx⟩

omit [DecidableEq σ] [Symbol σ] in
theorem lists_setRegistry
    {s : Session σ}
    {i : Nat}
    {r : Registry}
    (hr : s.registries[i]? = some r)
    {r' : Registry}
    {x : StateId}
    (hx : r'.contains x = true) :
    (s.setRegistry i r').Lists x := by
  refine ⟨i, r', ?_, hx⟩
  rw [setRegistry, getElem?_setIfInBounds_of_getElem? hr, if_pos rfl]

omit [DecidableEq σ] [Symbol σ] in
/-- What registries give out is listed at that time. -/
theorem lists_of_mem_registered
    {s : Session σ}
    (hreachable : ∀ (i : Nat) (r : Registry), s.registries[i]? = some r → r.Reachable)
    {op : RegistryOp}
    {x : StateId}
    (hx : x ∈ (s.stepRegistry op).2.answer.registered) :
    (s.stepRegistry op).1.Lists x := by
  cases op with
  | create =>
      cases hx
  | copy i =>
      simp only [stepRegistry, withObject] at hx ⊢
      split at hx
      · cases hx
      · next r hr =>
          have hcopy := (hreachable i r hr).copy s.nextTag
          exact ⟨s.registries.size, _, by simp [addRegistry], hcopy.mem_ids_iff.1 hx⟩
  | add i label =>
      simp only [stepRegistry, withObject] at hx ⊢
      split at hx
      · cases hx
      · next r hr =>
          have hadd := (hreachable i r hr).add label
          rw [Answer.registered, List.mem_singleton] at hx
          subst hx
          refine lists_setRegistry hr (hadd.mem_ids_iff.1 ?_)
          rw [Registry.ids_add]
          exact List.mem_append_right _ (List.mem_singleton.2 rfl)
  | addMany i count =>
      simp only [stepRegistry, withObject] at hx ⊢
      split at hx
      · cases hx
      · next r hr =>
          have hadd := (Registry.GrowsTo.refl.addMany count).reachable (hreachable i r hr)
          exact lists_setRegistry hr (hadd.mem_ids_iff.1 (List.mem_of_mem_drop hx))
  | get i y =>
      simp only [stepRegistry, withObject] at hx ⊢
      split at hx
      · cases hx
      · next r hr =>
          obtain ⟨q, hq, rfl⟩ := List.mem_map.1 hx
          have hfound : r.get? y = some q := Option.mem_toList.1 hq
          refine ⟨i, r, hr, ?_⟩
          rw [(hreachable i r hr).id_of_get? hfound, r.contains_eq_isSome_get?, hfound]
          rfl
  | contains i y =>
      simp only [stepRegistry, withObject] at hx
      split at hx <;> cases hx
  | check i y =>
      simp only [stepRegistry, withObject, ofExcept, answer] at hx
      split at hx
      · cases hx
      · split at hx <;> cases hx
  | info i =>
      simp only [stepRegistry, withObject] at hx ⊢
      split at hx
      · cases hx
      · next r hr =>
          exact ⟨i, r, hr, (hreachable i r hr).mem_ids_iff.1 hx⟩

theorem lists_of_mem_issues
    {s : Session σ}
    (hreachable : ∀ (i : Nat) (r : Registry), s.registries[i]? = some r → r.Reachable)
    {op : Op σ}
    {x : StateId}
    (hx : x ∈ op.issues (s.step op).2.answer) :
    (s.step op).1.Lists x := by
  cases op with
  | registry op =>
      exact lists_of_mem_registered hreachable hx
  | table | graph | validate =>
      cases hx

/-- Whatever has been given out is listed. -/
theorem Minting.lists_of_mem_issued
    {tag : Tag}
    {s : Session σ}
    {minted : List (Nat × StateId)}
    (h : Minting tag s.nextTag s.registries minted)
    {ops : List (Op σ)}
    {x : StateId}
    (hx : x ∈ s.issued ops) :
    (s.after ops).Lists x := by
  induction ops generalizing s minted with
  | nil =>
      cases hx
  | cons op ops ih =>
      rw [issued, List.mem_append] at hx
      rcases hx with hx | hx
      · exact (lists_of_mem_issues h.reachable hx).after ops
      · exact ih (h.effect (s.registryEffect_step op)) hx

/-- A session in which tables speak of listed identifiers only, and owned tables of those of their
owner's automaton. -/
def Housed (s : Session σ) : Prop :=
  ∀ (j : Nat) (T : Table σ), s.tables[j]? = some T →
    T.Owned ∧ ∀ t ∈ T.toList, ∀ x ∈ t.endpoints, s.Lists x

/-- A table takes only what it has been handed. -/
theorem Housed.step
    {s : Session σ}
    (h : s.Housed)
    {op : Op σ}
    (hhanded : ∀ t ∈ op.handed, ∀ x ∈ t.endpoints, s.Lists x) :
    (s.step op).1.Housed := by
  have hlater (x : StateId) (hx : s.Lists x) : (s.step op).1.Lists x := hx.after [op]
  refine (s.tableEffect_step op).forall_getElem? ?_ ?_ ?_
  · intro owner
    refine ⟨Table.owned_empty owner, ?_⟩
    intro t ht
    cases ht
  · intro T c hc hT
    refine ⟨hT.1.change c, ?_⟩
    obtain ⟨new, hsub, hlist⟩ := T.exists_toList_change c
    intro t ht x hx
    rw [hlist, List.mem_append] at ht
    rcases ht with ht | ht
    · exact hT.2 t ht x hx
    · have hmem : t ∈ op.handed := hc ▸ hsub.subset ht
      exact hlater x (hhanded t hmem x hx)
  · intro j T hT
    obtain ⟨howned, hlists⟩ := h j T hT
    exact ⟨howned, fun t ht x hx => hlater x (hlists t ht x hx)⟩

/-- If only what has been given out is handed to tables, all tables speak of listed identifiers. -/
theorem housed_after
    {tag : Tag}
    {ops : List (Op σ)}
    (hissued : (start tag : Session σ).HandsIssued ops) :
    ((start tag : Session σ).after ops).Housed := by
  induction ops using List.reverseRecOn with
  | nil =>
      intro j T hT
      simp [start] at hT
  | append_singleton ops op ih =>
      rw [after_concat]
      refine (ih hissued.of_append).step ?_
      intro t ht x hx
      have hstart : Minting tag (start tag : Session σ).nextTag
          (start tag : Session σ).registries [] := .empty tag
      exact hstart.lists_of_mem_issued (hissued.mem_issued ht hx)

/-- A table that has been made for a registry has the tag of this registry. -/
theorem MadeFor.exists_table
    {s : Session σ}
    {ops : List (Op σ)}
    {j i : Nat}
    (h : s.MadeFor ops j i) :
    ∃ (T : Table σ) (r : Registry),
      (s.after ops).tables[j]? = some T ∧ (s.after ops).registries[i]? = some r ∧
        T.owner = some r.tag := by
  induction h with
  | @create ops kind i r hhome hr =>
      rw [after_concat, step, stepTable]
      refine ⟨.empty (some r.tag), r, ?_, ?_, rfl⟩
      · rw [tables_makeTable_of_home? hhome hr, Array.getElem?_push_size]
      · rw [frame_makeTable]
        exact hr
  | @copy ops j i _ ih =>
      obtain ⟨T, r, hT, hr, howner⟩ := ih
      rw [after_concat, step, stepTable, withObject_of_getElem? hT]
      exact ⟨T, r, Array.getElem?_push_size, hr, howner⟩
  | @later ops op j i _ ih =>
      obtain ⟨T, r, hT, hr, howner⟩ := ih
      obtain ⟨T', hT', howner'⟩ := ((s.after ops).tableEffect_step op).exists_getElem? hT
      obtain ⟨r', hr', hgrows⟩ := ((s.after ops).registryEffect_step op).exists_getElem? hr
      rw [after_concat]
      exact ⟨T', r', hT', hr', by rw [howner', howner, hgrows.tag_eq]⟩

/-- An owned table never refers to a state that its registry does not have.  In the course of
operations that make no more registries than there are words for tags, and hand nothing to a table
but what registries have given out, the following holds at every time of every table that was made
for a registry with ownership to be checked, and of every copy of such a table: each end of each of
its transitions is contained in this registry and in no other; and validation against this registry
with a registered start finds no foreign state. -/
theorem owned_ends_contained
    {tag : Tag}
    {before rest : List (Op σ)}
    (hroom : ((start tag : Session σ).after (before ++ rest)).registries.size ≤ UInt32.size)
    (hissued : (start tag : Session σ).HandsIssued (before ++ rest))
    {j i : Nat}
    (hmade : (start tag : Session σ).MadeFor before j i) :
    let s := (start tag : Session σ).after before
    ∃ (T : Table σ) (r : Registry), s.tables[j]? = some T ∧ s.registries[i]? = some r ∧
      (∀ t ∈ T.toList, ∀ x ∈ t.endpoints,
        r.contains x = true ∧
          ∀ (i' : Nat) (r' : Registry), s.registries[i']? = some r' → r'.contains x = true →
            i' = i) ∧
      ∀ q, r.contains q = true → (T.validate r q).foreign = [] := by
  intro s
  rw [after_append] at hroom
  have hsize := s.size_registries_le_after rest
  have hapart := (minting_start (σ := σ) tag before).apart (Nat.le_trans hsize hroom)
  have hhoused : s.Housed := housed_after hissued.of_append
  obtain ⟨T, r, hT, hr, howner⟩ := hmade.exists_table
  obtain ⟨howned, hlists⟩ := hhoused j T hT
  have hcontains (t : Transition σ) (ht : t ∈ T.toList) (x : StateId) (hx : x ∈ t.endpoints) :
      r.contains x = true := by
    have htag : x.automaton = r.tag := by
      rw [Transition.endpoints, List.mem_pair] at hx
      rcases hx with rfl | rfl
      · exact (howned r.tag howner t ht).1
      · exact (howned r.tag howner t ht).2
    obtain ⟨i', r', hr', hx'⟩ := hlists t ht x hx
    have hi : i' = i := by
      refine hapart.tag_injective i' i r' r hr' hr ?_
      rw [← htag, Registry.automaton_of_contains hx']
    subst hi
    have hr'' := hr'.symm.trans hr
    cases hr''
    exact hx'
  refine ⟨T, r, hT, hr, ?_, ?_⟩
  · intro t ht x hx
    refine ⟨hcontains t ht x hx, ?_⟩
    intro i' r' hr' hx'
    exact hapart.contains_injective i' i r' r x hr' hr hx' (hcontains t ht x hx)
  · intro q hq
    rw [List.eq_nil_iff_forall_not_mem]
    intro x hx
    obtain ⟨hx, hout⟩ := (Table.mem_foreign_validate T r q x).1 hx
    rcases hx with rfl | ⟨t, ht, hx⟩
    · rw [hq] at hout
      cases hout
    · rw [hcontains t ht x hx] at hout
      cases hout

/-- A copy of a table that was made for a registry, after this registry and a copy of it have grown.
A state of the registry goes in; the state of its copy at the same position does not. -/
theorem owned_ends_contained_copy :
    let x : StateId := ⟨.first, 0⟩
    let x' : StateId := ⟨.first, 1⟩
    let y : StateId := ⟨Tag.first.next, 1⟩
    let ops : List (Op Char) := [.registry .create, .registry (.add 0 none),
      .table (.create (.owned 0)), .registry (.copy 0), .table (.copy 0),
      .registry (.add 0 none), .registry (.add 1 none),
      .table (.insertAll 1 [⟨x, 'a', y⟩]), .table (.insert 1 ⟨x, 'a', x'⟩)]
    let s := (start .first : Session Char).after ops
    s.registries.size ≤ UInt32.size ∧ (start .first : Session Char).HandsIssued ops ∧
      (start .first : Session Char).MadeFor ops 1 0 ∧
      ∃ (T : Table Char) (r : Registry), s.tables[1]? = some T ∧ s.registries[0]? = some r ∧
        T.toList = [⟨x, 'a', x'⟩] ∧ r.contains x' = true ∧ (T.validate r x).foreign = [] := by
  intro x x' y ops s
  have hroom : ((start .first : Session Char).after (ops ++ [])).registries.size ≤ UInt32.size := by
    decide
  have hissued : (start .first : Session Char).HandsIssued (ops ++ []) := by
    decide +kernel
  have hmade : (start .first : Session Char).MadeFor ops 1 0 := by
    have hfirst : (start .first : Session Char).MadeFor (ops.take 3) 0 0 :=
      @MadeFor.create Char _ _ _ (ops.take 2) (.owned 0) 0 _ rfl rfl
    have hcopy : (start .first : Session Char).MadeFor (ops.take 5) 1 0 :=
      @MadeFor.copy Char _ _ _ (ops.take 4) 0 0 hfirst.later
    exact hcopy.later.later.later.later
  obtain ⟨T, r, hT, hr, hcontains, hvalid⟩ := owned_ends_contained hroom hissued hmade
  have hlist : T.toList = [⟨x, 'a', x'⟩] := by
    have hstored : s.tables[1]?.map Table.toList = some [⟨x, 'a', x'⟩] := by
      decide +kernel
    rwa [hT, Option.map_some, Option.some.injEq] at hstored
  have hends := hcontains ⟨x, 'a', x'⟩ (by rw [hlist]; exact List.mem_singleton.2 rfl)
  refine ⟨by simpa using hroom, by simpa using hissued, hmade, T, r, hT, hr, hlist, ?_, ?_⟩
  · exact (hends x' (by simp [Transition.endpoints])).1
  · exact hvalid x (hends x (by simp [Transition.endpoints])).1

end Session
end GotoAutomaton
