import GotoAutomaton.Dot.Drawing
import GotoAutomaton.Proofs.Dot.Reading
import GotoAutomaton.Proofs.Graph.Enumeration
import GotoAutomaton.Proofs.State.Registry
import Mathlib.Data.List.Permutation

/-!
# What a drawing shows

Transitions are drawn in the order of their ends.  Parallel transitions are alike in this order, but
the sort keeps them as they were added; so the list is determined by what was added between each two
states.

A drawing shows what was added to a graph: a point for each state that was mentioned, in ascending
order, and an arrow for each added transition, sorted by its ends with parallel transitions as they
were added.  Additions and registry leave no choice in this (`Drawing.Shows.unique`), and the
document tells its points and arrows, so two documents with one text show the same.

Main statements: what sorting keeps (`Transition.filter_mergeSort_leEnds`),
`Transition.eq_of_pairwise_inOrder`, and `drawing_reads_back`.
-/

namespace GotoAutomaton

namespace Transition

variable {σ : Type}

/-- Whether a transition leads from one given state to another. -/
def joins (x y : StateId) (t : Transition σ) : Bool :=
  decide (t.origin = x) && decide (t.destination = y)

/-- One transition may stand before another: it has the smaller origin, or the same origin and no
greater destination. -/
def InOrder (s t : Transition σ) : Prop :=
  s.origin.Precedes t.origin ∨
    s.origin = t.origin ∧ (s.destination = t.destination ∨ s.destination.Precedes t.destination)

theorem joins_iff
    {x y : StateId}
    {t : Transition σ} :
    t.joins x y = true ↔ t.origin = x ∧ t.destination = y := by
  simp [joins]

theorem leEnds_of_joins
    {x y : StateId}
    {s t : Transition σ}
    (hs : s.joins x y = true)
    (ht : t.joins x y = true) :
    s.leEnds t = true := by
  rw [joins_iff] at hs ht
  rw [leEnds, if_pos (hs.1.trans ht.1.symm)]
  exact StateId.le_of_eq (hs.2.trans ht.2.symm)

theorem inOrder_of_leEnds
    {s t : Transition σ}
    (h : s.leEnds t = true) :
    s.InOrder t := by
  unfold leEnds at h
  split at h
  next horigin =>
      exact Or.inr ⟨horigin, StateId.eq_or_precedes_of_le h⟩
  next horigin =>
      exact Or.inl (StateId.precedes_of_le_of_ne h horigin)

theorem leEnds_trans
    (s t u : Transition σ)
    (hst : s.leEnds t = true)
    (htu : t.leEnds u = true) :
    s.leEnds u = true := by
  unfold leEnds at hst htu ⊢
  by_cases hs : s.origin = t.origin <;> by_cases ht : t.origin = u.origin
  · rw [if_pos hs] at hst
    rw [if_pos ht] at htu
    rw [if_pos (hs.trans ht)]
    exact StateId.le_trans _ _ _ hst htu
  · rw [if_neg ht] at htu
    rw [if_neg (hs ▸ ht), hs]
    exact htu
  · rw [if_neg hs] at hst
    rw [if_neg (ht ▸ hs), ← ht]
    exact hst
  · rw [if_neg hs] at hst
    rw [if_neg ht] at htu
    have hu : s.origin ≠ u.origin := fun hu => hs (StateId.le_antisymm hst (hu ▸ htu))
    rw [if_neg hu]
    exact StateId.le_trans _ _ _ hst htu

theorem leEnds_total (s t : Transition σ) : (s.leEnds t || t.leEnds s) = true := by
  unfold leEnds
  by_cases h : s.origin = t.origin
  · rw [if_pos h, if_pos h.symm]
    exact StateId.le_total _ _
  · rw [if_neg h, if_neg (Ne.symm h)]
    exact StateId.le_total _ _

/-- Transitions that may stand in either order have the same ends. -/
theorem InOrder.joins_of_inOrder
    {s t : Transition σ}
    (hst : s.InOrder t)
    (hts : t.InOrder s) :
    s.joins t.origin t.destination = true := by
  rw [joins_iff]
  rcases hst with hst | ⟨horigin, hst⟩ <;> rcases hts with hts | ⟨horigin', hts⟩
  · exact absurd hts (Std.Asymm.asymm _ _ hst)
  · rw [horigin'] at hst
    exact absurd hst (Std.Irrefl.irrefl _)
  · rw [horigin] at hts
    exact absurd hts (Std.Irrefl.irrefl _)
  · refine ⟨horigin, ?_⟩
    rcases hst with hst | hst
    · exact hst
    · rcases hts with hts | hts
      · exact hts.symm
      · exact absurd hts (Std.Asymm.asymm _ _ hst)

section Sorting

variable (ts : List (Transition σ))

theorem pairwise_inOrder_mergeSort : (ts.mergeSort leEnds).Pairwise InOrder :=
  (List.pairwise_mergeSort leEnds_trans leEnds_total ts).imp inOrder_of_leEnds

/-- Sorting keeps parallel transitions as they are. -/
theorem filter_mergeSort_leEnds (x y : StateId) :
    (ts.mergeSort leEnds).filter (joins x y) = ts.filter (joins x y) := by
  have halike : (ts.filter (joins x y)).Pairwise fun s t => s.leEnds t = true := by
    apply List.pairwise_of_forall_mem_list
    intro s hs t ht
    exact leEnds_of_joins (List.mem_filter.1 hs).2 (List.mem_filter.1 ht).2
  have hsub := List.sublist_mergeSort leEnds_trans leEnds_total halike List.filter_sublist
  have hsub' := hsub.filter (joins x y)
  rw [List.filter_filter] at hsub'
  simp only [Bool.and_self] at hsub'
  have hperm := (List.mergeSort_perm ts leEnds).filter (joins x y)
  exact (hsub'.eq_of_length hperm.length_eq.symm).symm

end Sorting

theorem mem_of_filter_joins_eq
    {ts us : List (Transition σ)}
    (hjoins : ∀ x y, ts.filter (joins x y) = us.filter (joins x y))
    {t : Transition σ}
    (ht : t ∈ ts) :
    t ∈ us := by
  have hmem : t ∈ ts.filter (joins t.origin t.destination) :=
    List.mem_filter.2 ⟨ht, joins_iff.2 ⟨rfl, rfl⟩⟩
  rw [hjoins] at hmem
  exact List.mem_of_mem_filter hmem

/-- The first transitions of two lists in order have the same ends if each list has both. -/
theorem joins_of_pairwise_inOrder
    {t u : Transition σ}
    {ts us : List (Transition σ)}
    (hts : (t :: ts).Pairwise InOrder)
    (hus : (u :: us).Pairwise InOrder)
    (ht : t ∈ u :: us)
    (hu : u ∈ t :: ts) :
    t.joins u.origin u.destination = true := by
  rw [List.mem_cons] at ht hu
  rcases ht with rfl | ht
  · exact joins_iff.2 ⟨rfl, rfl⟩
  · rcases hu with rfl | hu
    · exact joins_iff.2 ⟨rfl, rfl⟩
    · exact (List.rel_of_pairwise_cons hts hu).joins_of_inOrder (List.rel_of_pairwise_cons hus ht)

/-- Lists in order that have the same transitions between each two states are the same list. -/
theorem eq_of_pairwise_inOrder
    {ts us : List (Transition σ)}
    (hts : ts.Pairwise InOrder)
    (hus : us.Pairwise InOrder)
    (hjoins : ∀ x y, ts.filter (joins x y) = us.filter (joins x y)) :
    ts = us := by
  induction ts generalizing us with
  | nil =>
      rw [eq_comm, List.eq_nil_iff_forall_not_mem]
      intro u hu
      have hmem := mem_of_filter_joins_eq (fun x y => (hjoins x y).symm) hu
      cases hmem
  | cons t ts ih =>
      cases us with
      | nil =>
          have hmem := mem_of_filter_joins_eq hjoins (List.mem_cons_self)
          cases hmem
      | cons u us =>
          have ht := mem_of_filter_joins_eq hjoins (List.mem_cons_self)
          have hu := mem_of_filter_joins_eq (fun x y => (hjoins x y).symm) (List.mem_cons_self)
          have hends := joins_of_pairwise_inOrder hts hus ht hu
          have hhead := hjoins u.origin u.destination
          rw [List.filter_cons_of_pos hends, List.filter_cons_of_pos (joins_iff.2 ⟨rfl, rfl⟩)]
            at hhead
          obtain rfl : t = u := (List.cons.inj hhead).1
          have htails (x y : StateId) : ts.filter (joins x y) = us.filter (joins x y) := by
            have h := hjoins x y
            cases hx : t.joins x y <;> simpa [List.filter_cons, hx] using h
          rw [ih hts.of_cons hus.of_cons htails]

end Transition

namespace Dot

/-- A point stands for a state, under the name it prints as.  It is labelled by the short form of
the state if the state is registered, and by its printed identifier otherwise. -/
structure Point.Shows (r : Registry) (x : StateId) (p : Point) : Prop where
  name : p.name = x.text
  registered : ∀ s, r.get? x = some s → p.label = s.short
  unregistered : r.contains x = false → p.label = x.text

/-- An arrow stands for a transition. -/
structure Arrow.Shows {σ : Type} [Symbol σ] (t : Transition σ) (a : Arrow) : Prop where
  tail : a.tail = t.origin.text
  head : a.head = t.destination.text
  label : a.label = Symbol.text t.symbol

/-- A drawing shows what was added: each mentioned state once, in ascending order, and each added
transition, sorted by its ends with parallel transitions in the order they were added. -/
structure Drawing.Shows
    {σ : Type}
    [Symbol σ]
    (additions : List (Addition σ))
    (r : Registry)
    (d : Drawing) : Prop where
  points : ∃ xs : List StateId,
    xs.Pairwise StateId.Precedes ∧
      (∀ x, x ∈ xs ↔ x ∈ Graph.mentionedStates additions) ∧
      List.Forall₂ (Point.Shows r) xs d.points
  arrows : ∃ ts : List (Transition σ),
    ts.Pairwise Transition.InOrder ∧
      (∀ x y, ts.filter (Transition.joins x y) =
        (Graph.addedTransitions additions).filter (Transition.joins x y)) ∧
      List.Forall₂ Arrow.Shows ts d.arrows

theorem Point.shows_iff
    (r : Registry)
    (x : StateId)
    (p : Point) :
    Point.Shows r x p ↔ p = ⟨x.text, Graph.labelOf r x⟩ := by
  have hcontains := r.contains_eq_isSome_get? x
  constructor
  · rintro ⟨hname, hregistered, hunregistered⟩
    obtain ⟨name, label⟩ := p
    obtain rfl : name = x.text := hname
    rw [Graph.labelOf]
    cases hget : r.get? x with
    | none =>
        rw [hget] at hcontains
        obtain rfl : label = x.text := hunregistered hcontains
        rfl
    | some s =>
        obtain rfl : label = s.short := hregistered s hget
        rfl
  · rintro rfl
    refine ⟨rfl, ?_, ?_⟩
    · intro s hget
      simp only [Graph.labelOf, hget]
    · intro hout
      rw [hout] at hcontains
      have hget := Option.not_isSome_iff_eq_none.1 (Bool.eq_false_iff.1 hcontains.symm)
      simp only [Graph.labelOf, hget]

theorem Arrow.shows_iff
    {σ : Type}
    [Symbol σ]
    (t : Transition σ)
    (a : Arrow) :
    Arrow.Shows t a ↔ a = ⟨t.origin.text, t.destination.text, Symbol.text t.symbol⟩ := by
  constructor
  · rintro ⟨htail, hhead, hlabel⟩
    cases a
    simp_all
  · rintro rfl
    exact ⟨rfl, rfl, rfl⟩

/-- A relation that leaves no choice relates a list to its image only. -/
theorem forall₂_iff_eq_map
    {α β : Type}
    {R : α → β → Prop}
    {f : α → β}
    (hR : ∀ x y, R x y ↔ y = f x)
    {xs : List α}
    {ys : List β} :
    List.Forall₂ R xs ys ↔ ys = xs.map f := by
  constructor
  · intro h
    induction h with
    | nil =>
        rfl
    | cons hxy _ ih =>
        rw [(hR _ _).1 hxy, ih, List.map_cons]
  · rintro rfl
    rw [List.forall₂_map_right_iff, List.forall₂_same]
    intro x _
    exact (hR x _).2 rfl

/-- There is one drawing that shows what was added. -/
theorem Drawing.Shows.unique
    {σ : Type}
    [Symbol σ]
    {additions : List (Addition σ)}
    {r : Registry}
    {d d' : Drawing}
    (hd : d.Shows additions r)
    (hd' : d'.Shows additions r) :
    d = d' := by
  obtain ⟨⟨xs, hxs, hmentioned, hpoints⟩, ⟨ts, hts, hadded, harrows⟩⟩ := hd
  obtain ⟨⟨ys, hys, hmentioned', hpoints'⟩, ⟨us, hus, hadded', harrows'⟩⟩ := hd'
  obtain rfl : xs = ys :=
    StateId.eq_of_pairwise_precedes hxs hys fun x => (hmentioned x).trans (hmentioned' x).symm
  obtain rfl : ts = us :=
    Transition.eq_of_pairwise_inOrder hts hus fun x y => (hadded x y).trans (hadded' x y).symm
  rw [forall₂_iff_eq_map (Point.shows_iff r)] at hpoints hpoints'
  rw [forall₂_iff_eq_map Arrow.shows_iff] at harrows harrows'
  obtain ⟨points, arrows⟩ := d
  obtain ⟨points', arrows'⟩ := d'
  rw [Drawing.mk.injEq]
  exact ⟨hpoints.trans hpoints'.symm, harrows.trans harrows'.symm⟩

/-- A sink with room for the document holds all of it. -/
theorem Drawing.write_of_room
    (d : Drawing)
    (spare : Nat) :
    d.write ((Sink.bytes d.text).length + spare) = ⟨Sink.bytes d.text, .ok ()⟩ := by
  have hheld : (d.write ((Sink.bytes d.text).length + spare)).held = Sink.bytes d.text := by
    rw [Drawing.write, Sink.held_write, d.flatten_map_bytes_lines,
      List.take_of_length_le (Nat.le_add_right _ _)]
  have hresult : (d.write ((Sink.bytes d.text).length + spare)).result = .ok () := by
    rw [Drawing.write, Sink.result_write, d.flatten_map_bytes_lines,
      if_pos (Nat.le_add_right _ _)]
  exact congrArg₂ Sink.Written.mk hheld hresult

end Dot

namespace Graph

variable {σ : Type}

theorem mem_keys_index_iff
    {g : Graph σ}
    {x : StateId} :
    x ∈ g.index.keys ↔ g.contains x = true := by
  rw [contains, OrderedMap.contains, Option.isSome_iff_ne_none, Ne, OrderedMap.get?_eq_none_iff,
    Decidable.not_not]

theorem mem_keys_index_build
    {additions : List (Addition σ)}
    {x : StateId} :
    x ∈ (build additions).index.keys ↔ x ∈ mentionedStates additions := by
  rw [mem_keys_index_iff, (faithful_build additions).contains_iff, states_build, mem_distinct]

variable [Symbol σ]

/-- The drawing of a graph shows what was added to it. -/
theorem shows_drawing_build
    (additions : List (Addition σ))
    (r : Registry) :
    ((build additions).drawing r).Shows additions r := by
  refine ⟨⟨StateId.sort (build additions).index.keys, ?_, ?_, ?_⟩,
    ⟨(build additions).transitions.mergeSort Transition.leEnds, ?_, ?_, ?_⟩⟩
  · exact StateId.pairwise_precedes_sort (build additions).index.nodup_keys
  · intro x
    rw [StateId.mem_sort, mem_keys_index_build]
  · exact (Dot.forall₂_iff_eq_map (Dot.Point.shows_iff r)).2 rfl
  · exact Transition.pairwise_inOrder_mergeSort _
  · intro x y
    rw [Transition.filter_mergeSort_leEnds, transitions_build]
  · exact (Dot.forall₂_iff_eq_map Dot.Arrow.shows_iff).2 rfl

/-- The document of a graph can be read back, whatever its labels and symbols are: reading gives
exactly the points and the arrows that show what was added.  Writing it never fails for anything but
room.  And two documents with one text show the same, be the symbols of one type or of two. -/
theorem drawing_reads_back
    (additions : List (Addition σ))
    (r : Registry) :
    let d := (build additions).drawing r
    d.Shows additions r ∧
    Dot.Drawing.read? d.text = some d ∧
    (∀ spare, d.write ((Sink.bytes d.text).length + spare) = ⟨Sink.bytes d.text, .ok ()⟩) ∧
    ∀ (τ : Type) [Symbol τ] (additions' : List (Addition τ)) (r' : Registry) (d' : Dot.Drawing),
      d'.Shows additions' r' → ((build additions').drawing r').text = d.text → d' = d := by
  intro d
  have hread : Dot.Drawing.read? d.text = some d :=
    Dot.Drawing.read?_text ((build additions).bareNames_drawing r)
  refine ⟨shows_drawing_build additions r, hread, d.write_of_room, ?_⟩
  intro τ _ additions' r' d' hd' htext
  have hread' := Dot.Drawing.read?_text ((build additions').bareNames_drawing r')
  rw [htext, hread, Option.some.injEq] at hread'
  rw [hread']
  exact hd'.unique (shows_drawing_build additions' r')

/-- A label that closes its string and a symbol that is a quote stay what they are, and additions in
another order make the same document. -/
theorem drawing_reads_back_forged :
    let x : StateId := ⟨.first, 0⟩
    let y : StateId := ⟨.first, 1⟩
    let r := (Registry.empty .first).add (some "\"];\n  \"S7\" [label=\"\\")
    let d := (build [.transition ⟨x, "\"", y⟩, .transition ⟨x, "\\", x⟩]).drawing r
    let d' := (build [.state y, .transition ⟨x, "\\", x⟩, .transition ⟨x, "\"", y⟩]).drawing r
    Dot.Drawing.read? d.text =
        some ⟨[⟨"S0", "S0 (\"];\n  \"S7\" [label=\"\\)"⟩, ⟨"S1", "S1"⟩],
          [⟨"S0", "S0", "\\"⟩, ⟨"S0", "S1", "\""⟩]⟩ ∧
      d'.text = d.text ∧ d' = d := by
  intro x y r d d'
  have hd : d = ⟨[⟨"S0", "S0 (\"];\n  \"S7\" [label=\"\\)"⟩, ⟨"S1", "S1"⟩],
      [⟨"S0", "S0", "\\"⟩, ⟨"S0", "S1", "\""⟩]⟩ := by
    simp only [d, r, x, y]
    cbv
  have hd' : d' = ⟨[⟨"S0", "S0 (\"];\n  \"S7\" [label=\"\\)"⟩, ⟨"S1", "S1"⟩],
      [⟨"S0", "S0", "\\"⟩, ⟨"S0", "S1", "\""⟩]⟩ := by
    simp only [d', r, x, y]
    cbv
  have htext : d'.text = d.text := by
    rw [hd', hd]
  obtain ⟨_, hread, _, hsame⟩ :=
    drawing_reads_back [.transition ⟨x, "\"", y⟩, .transition ⟨x, "\\", x⟩] r
  obtain ⟨hshows, _⟩ := drawing_reads_back
    [.state y, .transition ⟨x, "\\", x⟩, .transition ⟨x, "\"", y⟩] r
  exact ⟨hd ▸ hread, htext, hsame String _ r d' hshows htext⟩

end Graph

end GotoAutomaton
