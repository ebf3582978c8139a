import GotoAutomaton.State.Basic
import GotoAutomaton.State.Registry
import Mathlib.Data.List.Nodup
import Mathlib.Data.List.Sort

/-!
# Ascending lists of states and reachable registries

States listed in strictly ascending order are listed once each, and which states there are
determines the list.

A registry is made empty, enlarged one state at a time, and copied under another tag.  Through all
of this the state at a position is named by the tag of the registry and that position, so that the
identifiers of a registry are the ones it says it contains, each listed once.  A registry that grows
keeps the states it has.

Main statements: `StateId.eq_of_pairwise_precedes` and `StateId.sublist_of_pairwise_precedes`; for
reachable registries `Reachable.ids_eq`, `Reachable.mem_ids_iff` and `Reachable.nodup_ids`, and for
growing ones `GrowsTo.ids_eq` and `GrowsTo.get?`.
-/

namespace GotoAutomaton

namespace StateId

instance : Std.Irrefl Precedes where
  irrefl x := by
    rintro (h | ⟨_, h⟩)
    · exact UInt32.lt_irrefl _ h
    · exact Nat.lt_irrefl _ h

instance : Std.Asymm Precedes where
  asymm x y := by
    rintro (hxy | ⟨htag, hxy⟩) (hyx | ⟨htag', hyx⟩)
    · exact UInt32.lt_asymm hxy hyx
    · exact UInt32.lt_irrefl _ (htag' ▸ hxy)
    · exact UInt32.lt_irrefl _ (htag ▸ hyx)
    · exact Nat.lt_asymm hxy hyx

theorem le_of_eq
    {x y : StateId}
    (h : x = y) :
    x.le y = true := by
  rw [h]
  exact le_refl y

theorem eq_or_precedes_of_le
    {x y : StateId}
    (h : x.le y = true) :
    x = y ∨ x.Precedes y := by
  by_cases hxy : x = y
  · exact Or.inl hxy
  · exact Or.inr (precedes_of_le_of_ne h hxy)

/-- Strictly ascending lists of the same states are the same list. -/
theorem eq_of_pairwise_precedes
    {xs ys : List StateId}
    (hxs : xs.Pairwise Precedes)
    (hys : ys.Pairwise Precedes)
    (hmem : ∀ x, x ∈ xs ↔ x ∈ ys) :
    xs = ys :=
  hxs.eq_of_mem_iff hys hmem

/-- A strictly ascending list of some states of another such list is a part of it. -/
theorem sublist_of_pairwise_precedes
    {xs ys : List StateId}
    (hxs : xs.Pairwise Precedes)
    (hys : ys.Pairwise Precedes)
    (hsub : xs ⊆ ys) :
    xs.Sublist ys :=
  List.sublist_of_subperm_of_pairwise (List.subperm_of_subset hxs.nodup hsub) hxs hys

end StateId

namespace Registry

/-- The registries that come of making, enlarging and copying. -/
inductive Reachable : Registry → Prop
  | empty (tag : Tag) : Reachable (empty tag)
  | add {r : Registry} (label : Option String) : Reachable r → Reachable (r.add label)
  | copy {r : Registry} (tag : Tag) : Reachable r → Reachable (r.retag tag)

/-- The state at a position is named by that position. -/
theorem Reachable.ids_eq
    {r : Registry}
    (hr : r.Reachable) :
    r.ids = (List.range r.size).map (StateId.mk r.tag) := by
  induction hr with
  | empty tag =>
      rfl
  | add label _ ih =>
      rw [ids_add, size_add, List.range_succ, List.map_append, ih]
      rfl
  | @copy r tag _ ih =>
      have hindex : r.ids.map StateId.index = List.range r.size := by
        rw [ih, List.map_map]
        exact List.map_id _
      rw [size_retag, ← hindex]
      simp [ids, retag, Function.comp_def]

/-- What a registry lists is what it contains. -/
theorem Reachable.mem_ids_iff
    {r : Registry}
    (hr : r.Reachable)
    {x : StateId} :
    x ∈ r.ids ↔ r.contains x = true := by
  obtain ⟨tag, i⟩ := x
  rw [hr.ids_eq, contains, Bool.and_eq_true, decide_eq_true_iff, decide_eq_true_iff]
  constructor
  · intro hx
    obtain ⟨j, hj, heq⟩ := List.mem_map.1 hx
    cases heq
    exact ⟨rfl, List.mem_range.1 hj⟩
  · rintro ⟨rfl, hi⟩
    exact List.mem_map.2 ⟨i, List.mem_range.2 hi, rfl⟩

theorem Reachable.nodup_ids
    {r : Registry}
    (hr : r.Reachable) :
    r.ids.Nodup := by
  rw [hr.ids_eq]
  refine List.Nodup.map ?_ List.nodup_range
  intro i j hij
  cases hij
  rfl

theorem Reachable.id_eq
    {r : Registry}
    (hr : r.Reachable)
    {i : Nat}
    {s : State}
    (hs : r.states[i]? = some s) :
    s.id = ⟨r.tag, i⟩ := by
  have hi : i < r.size := (Array.getElem?_eq_some_iff.1 hs).1
  have hid : r.ids[i]? = some s.id := by
    rw [ids, List.getElem?_map, Array.getElem?_toList, hs]
    rfl
  rw [hr.ids_eq, List.getElem?_map, List.getElem?_range hi, Option.map_some,
    Option.some.injEq] at hid
  exact hid.symm

/-- What is found under an identifier bears it. -/
theorem Reachable.id_of_get?
    {r : Registry}
    (hr : r.Reachable)
    {x : StateId}
    {s : State}
    (hs : r.get? x = some s) :
    s.id = x := by
  obtain ⟨tag, i⟩ := x
  rw [get?] at hs
  split at hs
  · next htag =>
      cases htag
      exact hr.id_eq hs
  · cases hs

/-- A registry contains identifiers of its own tag only. -/
theorem automaton_of_contains
    {r : Registry}
    {x : StateId}
    (hx : r.contains x = true) :
    x.automaton = r.tag := by
  rw [contains, Bool.and_eq_true, decide_eq_true_iff] at hx
  exact hx.1

theorem isOk_check (r : Registry) (x : StateId) : (r.check x).isOk = r.contains x := by
  unfold check
  cases r.contains x <;> rfl

/-- The labels of the states, in the order they were added. -/
def labels (r : Registry) : List (Option String) :=
  r.states.toList.map State.label

theorem labels_retag
    (r : Registry)
    (tag : Tag) :
    (r.retag tag).labels = r.labels := by
  simp [labels, retag, Function.comp_def]

/-- One registry comes of the other by adding states. -/
inductive GrowsTo (r : Registry) : Registry → Prop
  | refl : GrowsTo r r
  | add {r' : Registry} (label : Option String) : GrowsTo r r' → GrowsTo r (r'.add label)

namespace GrowsTo

variable {r r' r'' : Registry}

theorem trans
    (h : r.GrowsTo r')
    (h' : r'.GrowsTo r'') :
    r.GrowsTo r'' := by
  induction h' with
  | refl =>
      exact h
  | add label _ ih =>
      exact ih.add label

theorem addMany
    (h : r.GrowsTo r')
    (n : Nat) :
    r.GrowsTo (r'.addMany n) := by
  induction n generalizing r' with
  | zero =>
      exact h
  | succ n ih =>
      exact ih (h.add none)

theorem tag_eq (h : r.GrowsTo r') : r'.tag = r.tag := by
  induction h with
  | refl =>
      rfl
  | add _ _ ih =>
      exact ih

theorem reachable
    (h : r.GrowsTo r')
    (hr : r.Reachable) :
    r'.Reachable := by
  induction h with
  | refl =>
      exact hr
  | add label _ ih =>
      exact ih.add label

/-- The states of a registry stay in front of those that are added. -/
theorem exists_states_eq (h : r.GrowsTo r') :
    ∃ added, r'.states.toList = r.states.toList ++ added := by
  induction h with
  | refl =>
      exact ⟨[], (List.append_nil _).symm⟩
  | @add r' label _ ih =>
      obtain ⟨added, hadded⟩ := ih
      exact ⟨added ++ [⟨r'.nextId, label⟩], by simp [Registry.add, hadded]⟩

/-- The identifiers behind those of a registry are the ones minted since. -/
theorem ids_eq (h : r.GrowsTo r') : r'.ids = r.ids ++ r'.ids.drop r.size := by
  obtain ⟨added, hadded⟩ := h.exists_states_eq
  have hlength : r.ids.length = r.size := by simp [ids, size]
  have hids : r'.ids = r.ids ++ added.map State.id := by simp [ids, hadded]
  rw [hids, ← hlength, List.drop_left]

/-- What is found in a registry is found for good. -/
theorem get?
    (h : r.GrowsTo r')
    {x : StateId}
    {s : State}
    (hs : r.get? x = some s) :
    r'.get? x = some s := by
  obtain ⟨added, hadded⟩ := h.exists_states_eq
  rw [Registry.get?] at hs ⊢
  rw [h.tag_eq]
  split at hs
  · next htag =>
      obtain ⟨hi, _⟩ := Array.getElem?_eq_some_iff.1 hs
      rw [if_pos htag, ← Array.getElem?_toList, hadded,
        List.getElem?_append_left (by simpa using hi), Array.getElem?_toList, hs]
  · cases hs

theorem contains
    (h : r.GrowsTo r')
    {x : StateId}
    (hx : r.contains x = true) :
    r'.contains x = true := by
  rw [contains_eq_isSome_get?] at hx ⊢
  obtain ⟨s, hs⟩ := Option.isSome_iff_exists.1 hx
  rw [h.get? hs]
  rfl

end GrowsTo

end Registry

end GotoAutomaton
