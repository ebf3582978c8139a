import GotoAutomaton.Proofs.Session.Step
import Mathlib.Data.Prod.Basic

/-!
# Identifiers in a session

All registries of a session get their tags from one counter, a word that starts again at zero after
the last one.  As long as no more registries are made than there are words, every registry has a tag
of its own, whatever is added to which registry in between, and whichever copies are copied again.
So an identifier tells which registry has minted it, and no other registry answers for it.

Main statements: what a session has minted is what its registries list (`Minting.after`), and that
identifiers are unique and stable (`ids_unique_and_stable`).
-/

namespace GotoAutomaton

/-- The tag that is minted after a number of others. -/
def Tag.plus (k : Tag) (n : Nat) : Tag :=
  ⟨k.number + UInt32.ofNat n⟩

theorem Tag.plus_zero (k : Tag) : k.plus 0 = k := by
  simp [plus]

theorem Tag.next_plus
    (k : Tag)
    (n : Nat) :
    (k.plus n).next = k.plus (n + 1) := by
  simp [plus, next, UInt32.ofNat_add, UInt32.add_assoc]

/-- The counter does not come back to a tag before all words are used up. -/
theorem Tag.plus_injective
    {k : Tag}
    {m n : Nat}
    (hm : m < UInt32.size)
    (hn : n < UInt32.size)
    (h : k.plus m = k.plus n) :
    m = n := by
  have hword : UInt32.ofNat m = UInt32.ofNat n := by
    simpa [plus] using h
  have hnat := congrArg UInt32.toNat hword
  rwa [UInt32.toNat_ofNat_of_lt' hm, UInt32.toNat_ofNat_of_lt' hn] at hnat

namespace Session

/-- The registries have the tags that the counter has given out so far, and list between them what
has been minted, each identifier once. -/
structure Minting
    (tag nextTag : Tag)
    (registries : Array Registry)
    (minted : List (Nat × StateId)) : Prop where
  nextTag_eq : nextTag = tag.plus registries.size
  tag_eq : ∀ (i : Nat) (r : Registry), registries[i]? = some r → r.tag = tag.plus i
  reachable : ∀ (i : Nat) (r : Registry), registries[i]? = some r → r.Reachable
  mem_iff : ∀ i x, (i, x) ∈ minted ↔ ∃ r, registries[i]? = some r ∧ x ∈ r.ids
  nodup : minted.Nodup

namespace Minting

variable {tag nextTag : Tag} {registries : Array Registry} {minted : List (Nat × StateId)}

theorem empty (tag : Tag) : Minting tag tag #[] [] where
  nextTag_eq := tag.plus_zero.symm
  tag_eq i r hr := by simp at hr
  reachable i r hr := by simp at hr
  mem_iff i x := by simp
  nodup := List.nodup_nil

/-- A registry that is put last under the next tag mints its states. -/
theorem push
    (h : Minting tag nextTag registries minted)
    {r : Registry}
    (htag : r.tag = nextTag)
    (hr : r.Reachable) :
    Minting tag nextTag.next (registries.push r)
      (minted ++ r.ids.map (Prod.mk registries.size)) where
  nextTag_eq := by
    rw [h.nextTag_eq, Tag.next_plus, Array.size_push]
  tag_eq := by
    intro i r' hr'
    rw [Array.getElem?_push] at hr'
    split at hr'
    · next hi =>
        cases hr'
        rw [htag, h.nextTag_eq, hi]
    · exact h.tag_eq i r' hr'
  reachable := forall_getElem?_push h.reachable hr
  mem_iff := by
    intro i x
    rw [List.mem_append, h.mem_iff, Array.getElem?_push]
    by_cases hi : i = registries.size
    · simp [hi]
    · simp [hi, Ne.symm hi]
  nodup := by
    rw [List.nodup_append]
    refine ⟨h.nodup, hr.nodup_ids.map (Prod.mk_right_injective _), ?_⟩
    rintro ⟨i, x⟩ hold ⟨j, y⟩ hnew heq
    cases heq
    obtain ⟨z, _, hz⟩ := List.mem_map.1 hnew
    cases hz
    obtain ⟨r', hr', _⟩ := (h.mem_iff _ _).1 hold
    simp at hr'

/-- A registry that grows mints the states that are added. -/
theorem grow
    (h : Minting tag nextTag registries minted)
    {i : Nat}
    {r r' : Registry}
    (hr : registries[i]? = some r)
    (hgrows : r.GrowsTo r') :
    Minting tag nextTag (registries.setIfInBounds i r')
      (minted ++ (r'.ids.drop r.size).map (Prod.mk i)) := by
  have hget := getElem?_setIfInBounds_of_getElem? hr r'
  have hnodup : (r.ids ++ r'.ids.drop r.size).Nodup := by
    rw [← hgrows.ids_eq]
    exact (hgrows.reachable (h.reachable i r hr)).nodup_ids
  rw [List.nodup_append] at hnodup
  refine ⟨?_, ?_, ?_, ?_, ?_⟩
  · rw [Array.size_setIfInBounds]
    exact h.nextTag_eq
  · intro j q hq
    rw [hget] at hq
    split at hq
    · next hij =>
        cases hq
        rw [hgrows.tag_eq, h.tag_eq i r hr, hij]
    · exact h.tag_eq j q hq
  · exact forall_getElem?_setIfInBounds h.reachable hr (hgrows.reachable (h.reachable i r hr))
  · intro j x
    rw [List.mem_append, h.mem_iff, hget]
    by_cases hij : i = j
    · subst hij
      rw [if_pos rfl, hr]
      simp only [Option.some.injEq, exists_eq_left', List.mem_map, Prod.mk.injEq, true_and,
        exists_eq_right]
      rw [← List.mem_append, ← hgrows.ids_eq]
    · rw [if_neg hij, or_iff_left]
      intro hx
      obtain ⟨z, _, hz⟩ := List.mem_map.1 hx
      exact hij (congrArg Prod.fst hz)
  · rw [List.nodup_append]
    refine ⟨h.nodup, hnodup.2.1.map (Prod.mk_right_injective _), ?_⟩
    rintro ⟨j, x⟩ hold ⟨k, y⟩ hnew heq
    cases heq
    obtain ⟨z, hz, hzx⟩ := List.mem_map.1 hnew
    cases hzx
    obtain ⟨q, hq, hx⟩ := (h.mem_iff _ _).1 hold
    rw [hr] at hq
    cases hq
    exact hnodup.2.2 _ hx _ hz rfl

theorem effect
    {σ : Type}
    {s : Session σ}
    (h : Minting tag s.nextTag s.registries minted)
    {nextTag' : Tag}
    {registries' : Array Registry}
    {new : List (Nat × StateId)}
    (heffect : RegistryEffect s nextTag' registries' new) :
    Minting tag nextTag' registries' (minted ++ new) := by
  cases heffect with
  | none =>
      rwa [List.append_nil]
  | created =>
      exact h.push rfl (.empty s.nextTag)
  | copied hr =>
      exact h.push rfl (.copy s.nextTag (h.reachable _ _ hr))
  | grown hr hgrows =>
      exact h.grow hr hgrows

end Minting

variable {σ : Type}

/-- What holds of the identifiers of a session at a time, given what has been minted by then. -/
structure Apart (s : Session σ) (minted : List (Nat × StateId)) : Prop where
  /-- No two registries have one tag. -/
  tag_injective : ∀ (i j : Nat) (r r' : Registry),
    s.registries[i]? = some r → s.registries[j]? = some r' → r.tag = r'.tag → i = j
  /-- No identifier is minted twice, be it by one registry or by two. -/
  nodup_minted : (minted.map Prod.snd).Nodup
  /-- A state is named by the tag of its registry and its position there. -/
  id_eq : ∀ (i n : Nat) (r : Registry) (q : State),
    s.registries[i]? = some r → r.states[n]? = some q → q.id = ⟨r.tag, n⟩
  /-- A registry contains what it has minted and nothing else. -/
  mem_minted_iff : ∀ i x,
    (i, x) ∈ minted ↔ ∃ r, s.registries[i]? = some r ∧ r.contains x = true
  /-- No two registries contain one identifier. -/
  contains_injective : ∀ (i j : Nat) (r r' : Registry) (x : StateId),
    s.registries[i]? = some r → s.registries[j]? = some r' →
      r.contains x = true → r'.contains x = true → i = j
  /-- Looking up, asking and checking agree on every identifier. -/
  agree : ∀ (i : Nat) (r : Registry) (x : StateId), s.registries[i]? = some r →
    (r.get? x).isSome = r.contains x ∧ (r.check x).isOk = r.contains x ∧
      ∀ q, r.get? x = some q → q.id = x

/-- With no more registries than words, registries and minted identifiers that fit together leave no
identifier to two registries. -/
theorem Minting.apart
    {tag : Tag}
    {s : Session σ}
    {minted : List (Nat × StateId)}
    (h : Minting tag s.nextTag s.registries minted)
    (hroom : s.registries.size ≤ UInt32.size) :
    s.Apart minted := by
  have htag (i j : Nat) (r r' : Registry) (hi : s.registries[i]? = some r)
      (hj : s.registries[j]? = some r') (heq : r.tag = r'.tag) : i = j := by
    have hi' := (Array.getElem?_eq_some_iff.1 hi).1
    have hj' := (Array.getElem?_eq_some_iff.1 hj).1
    rw [h.tag_eq i r hi, h.tag_eq j r' hj] at heq
    exact Tag.plus_injective (by omega) (by omega) heq
  have hcontains (i j : Nat) (r r' : Registry) (x : StateId) (hi : s.registries[i]? = some r)
      (hj : s.registries[j]? = some r') (hx : r.contains x = true) (hx' : r'.contains x = true) :
      i = j :=
    htag i j r r' hi hj ((Registry.automaton_of_contains hx).symm.trans
      (Registry.automaton_of_contains hx'))
  have hmem (i : Nat) (x : StateId) :
      (i, x) ∈ minted ↔ ∃ r, s.registries[i]? = some r ∧ r.contains x = true := by
    rw [h.mem_iff]
    constructor
    · rintro ⟨r, hr, hx⟩
      exact ⟨r, hr, (h.reachable i r hr).mem_ids_iff.1 hx⟩
    · rintro ⟨r, hr, hx⟩
      exact ⟨r, hr, (h.reachable i r hr).mem_ids_iff.2 hx⟩
  refine ⟨htag, ?_, ?_, hmem, hcontains, ?_⟩
  · refine List.Nodup.map_on ?_ h.nodup
    rintro ⟨i, x⟩ hix ⟨j, y⟩ hjy heq
    cases heq
    obtain ⟨r, hr, hx⟩ := (hmem i x).1 hix
    obtain ⟨r', hr', hx'⟩ := (hmem j x).1 hjy
    rw [hcontains i j r r' x hr hr' hx hx']
  · intro i n r q hr hq
    exact (h.reachable i r hr).id_eq hq
  · intro i r x hr
    exact ⟨(r.contains_eq_isSome_get? x).symm, r.isOk_check x,
      fun q hq => (h.reachable i r hr).id_of_get? hq⟩

variable [DecidableEq σ] [Symbol σ]

/-- What operations mint, one after the other, each identifier with the number of the registry that
mints it. -/
def minted (s : Session σ) : List (Op σ) → List (Nat × StateId)
  | [] => []
  | op :: ops => op.mints (s.step op).2.answer ++ (s.step op).1.minted ops

/-- Registries and minted identifiers fit together at every time. -/
theorem Minting.after
    {tag : Tag}
    {s : Session σ}
    {minted : List (Nat × StateId)}
    (h : Minting tag s.nextTag s.registries minted)
    (ops : List (Op σ)) :
    Minting tag (s.after ops).nextTag (s.after ops).registries (minted ++ s.minted ops) := by
  induction ops generalizing s minted with
  | nil =>
      rwa [Session.minted, List.append_nil]
  | cons op ops ih =>
      have hstep := h.effect (s.registryEffect_step op)
      rw [Session.minted, ← List.append_assoc]
      exact ih hstep

theorem minting_start
    (tag : Tag)
    (ops : List (Op σ)) :
    let s := (start tag : Session σ).after ops
    Minting tag s.nextTag s.registries ((start tag : Session σ).minted ops) := by
  have hstart : Minting tag (start tag : Session σ).nextTag (start tag : Session σ).registries [] :=
    .empty tag
  exact hstart.after ops

/-- Registries keep their places and what they have. -/
theorem exists_registry_after
    {s : Session σ}
    {i : Nat}
    {r : Registry}
    (hr : s.registries[i]? = some r)
    (ops : List (Op σ)) :
    ∃ r', (s.after ops).registries[i]? = some r' ∧ r.GrowsTo r' := by
  induction ops generalizing s r with
  | nil =>
      exact ⟨r, hr, .refl⟩
  | cons op ops ih =>
      obtain ⟨q, hq, hgrows⟩ := (s.registryEffect_step op).exists_getElem? hr
      obtain ⟨r', hr', hgrows'⟩ := ih hq
      exact ⟨r', hr', hgrows.trans hgrows'⟩

/-- Registries are never taken away. -/
theorem size_registries_le_after
    (s : Session σ)
    (ops : List (Op σ)) :
    s.registries.size ≤ (s.after ops).registries.size := by
  by_contra hlt
  have hi : (s.after ops).registries.size < s.registries.size := by omega
  obtain ⟨r', hr', _⟩ := exists_registry_after (Array.getElem?_eq_getElem hi) ops
  simp at hr'

/-- Identifiers are unique and stable.  In the course of any operations, as long as no more
registries are made than there are words for tags, and whatever tag the first one gets:

* at every time the registries have tags of their own, no identifier has been minted twice, every
  state is named by the tag of its registry and its position, an identifier is contained in the
  registry that has minted it and in no other, and all questions about it are answered alike;
* what a registry has under an identifier it has at every later time, with the same label;
* a copy has the labels of the registry that is copied, in the same order. -/
theorem ids_unique_and_stable
    (tag : Tag)
    (before rest : List (Op σ))
    (hroom : ((start tag : Session σ).after (before ++ rest)).registries.size ≤ UInt32.size) :
    let s := (start tag : Session σ).after before
    s.Apart ((start tag : Session σ).minted before) ∧
    (∀ (i : Nat) (r : Registry) (x : StateId) (q : State),
      s.registries[i]? = some r → r.get? x = some q →
        ∃ r', (s.after rest).registries[i]? = some r' ∧ r'.get? x = some q) ∧
    (∀ (i : Nat) (r : Registry), s.registries[i]? = some r →
      ∃ r', (s.step (.registry (.copy i))).1.registries[s.registries.size]? = some r' ∧
        r'.labels = r.labels) := by
  intro s
  refine ⟨?_, ?_, ?_⟩
  · rw [after_append] at hroom
    have hsize := s.size_registries_le_after rest
    exact (minting_start tag before).apart (Nat.le_trans hsize hroom)
  · intro i r x q hr hq
    obtain ⟨r', hr', hgrows⟩ := exists_registry_after hr rest
    exact ⟨r', hr', hgrows.get? hq⟩
  · intro i r hr
    refine ⟨r.retag s.nextTag, ?_, r.labels_retag s.nextTag⟩
    rw [step, stepRegistry, withObject_of_getElem? hr]
    simp [addRegistry]

/-- Two registries that grow after one was copied from the other: the state that each of them adds
then is found in it and not in the other one, although both are printed alike. -/
theorem ids_unique_and_stable_fork :
    let ops : List (Op Char) := [.registry .create, .registry (.add 0 (some "start")),
      .registry (.copy 0), .registry (.add 0 none), .registry (.add 1 none)]
    let s := (start .first : Session Char).after ops
    let x : StateId := ⟨.first, 1⟩
    let y : StateId := ⟨Tag.first.next, 1⟩
    s.registries.size ≤ UInt32.size ∧
      (0, x) ∈ (start .first : Session Char).minted ops ∧
      (1, y) ∈ (start .first : Session Char).minted ops ∧
      (∀ r, s.registries[0]? = some r → r.contains x = true ∧ r.contains y = false) ∧
      x.text = y.text := by
  intro ops s x y
  have hroom : ((start .first : Session Char).after (ops ++ [])).registries.size ≤ UInt32.size := by
    decide
  obtain ⟨hapart, _, _⟩ := ids_unique_and_stable .first ops [] hroom
  have hx : (0, x) ∈ (start .first : Session Char).minted ops := by decide +kernel
  have hy : (1, y) ∈ (start .first : Session Char).minted ops := by decide +kernel
  refine ⟨by simpa using hroom, hx, hy, ?_, rfl⟩
  intro r hr
  obtain ⟨r', hr', hx'⟩ := (hapart.mem_minted_iff 0 x).1 hx
  rw [hr] at hr'
  cases hr'
  refine ⟨hx', ?_⟩
  rw [← Bool.not_eq_true]
  intro hy'
  obtain ⟨q, hq, hyq⟩ := (hapart.mem_minted_iff 1 y).1 hy
  have hnumbers := hapart.contains_injective 0 1 r q y hr hq hy' hyq
  omega

end Session
end GotoAutomaton
