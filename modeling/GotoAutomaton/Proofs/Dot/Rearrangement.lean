import GotoAutomaton.Proofs.Dot.Digraph
import GotoAutomaton.Proofs.Table.Arrangement

/-!
# Rearranged drawings

The order in which a graph was built decides the numbers of its nodes and edges, and of this the
drawing shows only how parallel transitions follow each other.  So graphs that are built otherwise
but have the same states, and between each two of them the same transitions in the same order, have
one text.  Within one automaton, and with symbols that print differently, the text tells as much.

Main statement: `text_drawing_rearranged`.
-/

namespace GotoAutomaton

/-- Lists with one image are the same list if images can be told apart. -/
theorem eq_of_map_eq
    {α β : Type}
    {f : α → β}
    {xs ys : List α}
    (h : xs.map f = ys.map f)
    (hinj : ∀ x ∈ xs, ∀ y ∈ ys, f x = f y → x = y) :
    xs = ys := by
  induction xs generalizing ys with
  | nil =>
      rw [List.map_nil, eq_comm, List.map_eq_nil_iff] at h
      exact h.symm
  | cons x xs ih =>
      cases ys with
      | nil =>
          cases h
      | cons y ys =>
          obtain ⟨hhead, htail⟩ := List.cons.inj h
          obtain rfl : x = y := hinj x List.mem_cons_self y List.mem_cons_self hhead
          rw [ih htail fun a ha b hb => hinj a (List.mem_cons_of_mem x ha) b
            (List.mem_cons_of_mem x hb)]

/-- Lists without repetitions that have the same elements, and no two of them, are the same. -/
theorem eq_of_nodup_of_subsingleton
    {α : Type}
    {xs ys : List α}
    (hxs : xs.Nodup)
    (hys : ys.Nodup)
    (hmem : ∀ x, x ∈ xs ↔ x ∈ ys)
    (hone : ∀ x ∈ xs, ∀ y ∈ xs, x = y) :
    xs = ys := by
  have hperm : xs.Perm ys := (List.perm_ext_iff_of_nodup hxs hys).2 hmem
  have htrivial (zs : List α) : zs.Pairwise fun _ _ => True :=
    List.pairwise_of_forall fun _ _ => trivial
  exact hperm.eq_of_pairwise (fun x y hx hy _ _ => hone x hx y ((hmem y).2 hy)) (htrivial xs)
    (htrivial ys)

/-- Within one automaton states that print alike are the same. -/
theorem StateId.eq_of_text_eq
    {k : Tag}
    {x y : StateId}
    (hx : x.automaton = k)
    (hy : y.automaton = k)
    (htext : x.text = y.text) :
    x = y := by
  obtain ⟨tag, index⟩ := x
  obtain ⟨tag', index'⟩ := y
  rw [StateId.mk.injEq]
  exact ⟨hx.trans hy.symm, StateId.text_eq_iff.1 htext⟩

/-- Documents with one text are documents of one drawing. -/
theorem Dot.Drawing.eq_of_text_eq
    {d e : Dot.Drawing}
    (hd : d.BareNames)
    (he : e.BareNames)
    (h : d.text = e.text) :
    d = e := by
  have hread := read?_text hd
  rw [h, read?_text he, Option.some.injEq] at hread
  exact hread.symm

namespace Graph

variable {σ : Type}

/-- Additions are alike if they make graphs with the same states and give each two states the same
transitions from one to the other, in the same order. -/
structure Alike (as bs : List (Addition σ)) : Prop where
  contains : ∀ x, (build as).contains x = (build bs).contains x
  between : ∀ x y, (addedTransitions as).filter (Transition.joins x y) =
    (addedTransitions bs).filter (Transition.joins x y)

variable {as bs : List (Addition σ)}

theorem ends_mem_mentionedStates
    {t : Transition σ}
    (ht : t ∈ addedTransitions as) :
    t.origin ∈ mentionedStates as ∧ t.destination ∈ mentionedStates as := by
  rw [← transitions_build] at ht
  have hends := (faithful_build as).mem_states_of_mem_transitions ht
  rwa [states_build, mem_distinct, mem_distinct] at hends

section Drawings

variable [Symbol σ]

/-- A drawing that shows additions shows all that are alike. -/
theorem Alike.shows
    (halike : Alike as bs)
    {r : Registry}
    {d : Dot.Drawing}
    (hd : d.Shows as r) :
    d.Shows bs r := by
  obtain ⟨⟨xs, hxs, hmentioned, hpoints⟩, ⟨ts, hts, hadded, harrows⟩⟩ := hd
  refine ⟨⟨xs, hxs, ?_, hpoints⟩, ⟨ts, hts, ?_, harrows⟩⟩
  · intro x
    rw [hmentioned, ← mem_keys_index_build, ← mem_keys_index_build, mem_keys_index_iff,
      mem_keys_index_iff, halike.contains]
  · intro x y
    rw [hadded, halike.between]

theorem Alike.drawing_eq
    (halike : Alike as bs)
    (r : Registry) :
    (build as).drawing r = (build bs).drawing r :=
  (halike.shows (shows_drawing_build as r)).unique (shows_drawing_build bs r)

section OneAutomaton

variable {k : Tag} {r : Registry}

/-- The points of one automaton tell its states. -/
theorem contains_eq_of_drawing_eq
    (has : ∀ x ∈ mentionedStates as, x.automaton = k)
    (hbs : ∀ x ∈ mentionedStates bs, x.automaton = k)
    (h : (build as).drawing r = (build bs).drawing r)
    (x : StateId) :
    (build as).contains x = (build bs).contains x := by
  have hpoints := congrArg Dot.Drawing.points h
  have hsort : StateId.sort (build as).index.keys = StateId.sort (build bs).index.keys := by
    refine eq_of_map_eq hpoints fun x hx y hy hpoint => ?_
    rw [StateId.mem_sort, mem_keys_index_build] at hx hy
    exact StateId.eq_of_text_eq (has x hx) (hbs y hy) (congrArg Dot.Point.name hpoint)
  rw [Bool.eq_iff_iff, ← mem_keys_index_iff, ← mem_keys_index_iff, ← StateId.mem_sort, hsort,
    StateId.mem_sort]

/-- The arrows of one automaton tell its transitions, if its symbols can be told apart. -/
theorem filter_joins_eq_of_drawing_eq
    (hsymbols : Function.Injective (Symbol.text : σ → String))
    (has : ∀ x ∈ mentionedStates as, x.automaton = k)
    (hbs : ∀ x ∈ mentionedStates bs, x.automaton = k)
    (h : (build as).drawing r = (build bs).drawing r)
    (x y : StateId) :
    (addedTransitions as).filter (Transition.joins x y) =
      (addedTransitions bs).filter (Transition.joins x y) := by
  have harrows := congrArg Dot.Drawing.arrows h
  have hsort : (build as).transitions.mergeSort Transition.leEnds =
      (build bs).transitions.mergeSort Transition.leEnds := by
    refine eq_of_map_eq harrows fun s hs t ht harrow => ?_
    rw [List.mem_mergeSort, transitions_build] at hs ht
    obtain ⟨hsorigin, hsdestination⟩ := ends_mem_mentionedStates hs
    obtain ⟨htorigin, htdestination⟩ := ends_mem_mentionedStates ht
    obtain ⟨htail, hhead, hlabel⟩ := Dot.Arrow.mk.inj harrow
    obtain ⟨origin, symbol, destination⟩ := s
    obtain ⟨origin', symbol', destination'⟩ := t
    rw [Transition.mk.injEq]
    exact ⟨StateId.eq_of_text_eq (has _ hsorigin) (hbs _ htorigin) htail,
      hsymbols hlabel,
      StateId.eq_of_text_eq (has _ hsdestination) (hbs _ htdestination) hhead⟩
  rw [← transitions_build as, ← transitions_build bs, ← Transition.filter_mergeSort_leEnds, hsort,
    Transition.filter_mergeSort_leEnds]

end OneAutomaton

end Drawings

/-- Tables with the same transitions, no two of them parallel, make graphs that are alike. -/
theorem alike_of_mem_toList_iff
    {T U : Table σ}
    (hT : T.Indexed)
    (hU : U.Indexed)
    (hmem : ∀ t, t ∈ T.toList ↔ t ∈ U.toList)
    (hparallel : ∀ s ∈ T.toList, ∀ t ∈ T.toList,
      s.origin = t.origin → s.destination = t.destination → s = t) :
    Alike (T.toList.map Addition.transition) (U.toList.map Addition.transition) where
  contains x := by
    rw [← ofTransitions_eq_build, ← ofTransitions_eq_build, Bool.eq_iff_iff,
      contains_ofTransitions_iff, contains_ofTransitions_iff]
    simp only [hmem]
  between x y := by
    rw [addedTransitions_map_transition, addedTransitions_map_transition]
    have hnodupT : T.toList.Nodup := hT.nodup_map_key.of_map _
    have hnodupU : U.toList.Nodup := hU.nodup_map_key.of_map _
    refine eq_of_nodup_of_subsingleton (hnodupT.filter _) (hnodupU.filter _) ?_ ?_
    · intro t
      rw [List.mem_filter, List.mem_filter, hmem]
    · intro s hs t ht
      rw [List.mem_filter, Transition.joins_iff] at hs ht
      obtain ⟨hs, horigin, hdestination⟩ := hs
      obtain ⟨ht, horigin', hdestination'⟩ := ht
      exact hparallel s hs t ht (horigin.trans horigin'.symm)
        (hdestination.trans hdestination'.symm)

/-- The text of a drawing does not depend on the order in which its graph was built, but for
parallel transitions: graphs with the same states, and with the same transitions from one state to
another in the same order, have one text.  So have the graphs of two tables with the same
transitions, no two of them parallel, in whatever order they were inserted.  Nothing else is lost in
the text: graphs with states of one automaton, and with symbols that print differently, are alike if
they have one text. -/
theorem text_drawing_rearranged
    [DecidableEq σ]
    [Symbol σ]
    (r : Registry) :
    (∀ as bs : List (Addition σ),
      Alike as bs → ((build as).drawing r).text = ((build bs).drawing r).text) ∧
    (∀ T U : Table σ, T.Reachable → U.Reachable →
      (∀ t, t ∈ T.toList ↔ t ∈ U.toList) →
      (∀ s ∈ T.toList, ∀ t ∈ T.toList,
        s.origin = t.origin → s.destination = t.destination → s = t) →
      ((ofTable T).drawing r).text = ((ofTable U).drawing r).text) ∧
    (Function.Injective (Symbol.text : σ → String) →
      ∀ (k : Tag) (as bs : List (Addition σ)),
        (∀ x ∈ mentionedStates as, x.automaton = k) →
        (∀ x ∈ mentionedStates bs, x.automaton = k) →
        ((build as).drawing r).text = ((build bs).drawing r).text → Alike as bs) := by
  refine ⟨?_, ?_, ?_⟩
  · intro as bs halike
    rw [halike.drawing_eq]
  · intro T U hT hU hmem hparallel
    have halike := alike_of_mem_toList_iff hT.indexed hU.indexed hmem hparallel
    rw [ofTable, ofTable, ofTransitions_eq_build, ofTransitions_eq_build, halike.drawing_eq]
  · intro hsymbols k as bs has hbs htext
    have hdrawing := Dot.Drawing.eq_of_text_eq ((build as).bareNames_drawing r)
      ((build bs).bareNames_drawing r) htext
    exact ⟨contains_eq_of_drawing_eq has hbs hdrawing,
      filter_joins_eq_of_drawing_eq hsymbols has hbs hdrawing⟩

/-- A transition back and a lone state may be added at any time, and so may the transitions of a
table that has no parallel ones; but two parallel transitions that change places change the text. -/
theorem text_drawing_rearranged_parallel :
    let x (i : Nat) : StateId := ⟨.first, i⟩
    let r := (Registry.empty .first).add (some "start")
    let as : List (Addition String) := [.transition ⟨x 0, "a", x 1⟩, .state (x 2),
      .transition ⟨x 0, "c", x 1⟩, .transition ⟨x 1, "b", x 0⟩]
    let bs : List (Addition String) := [.transition ⟨x 1, "b", x 0⟩, .transition ⟨x 0, "a", x 1⟩,
      .transition ⟨x 0, "c", x 1⟩, .state (x 2)]
    let cs : List (Addition String) := [.transition ⟨x 0, "c", x 1⟩, .state (x 2),
      .transition ⟨x 0, "a", x 1⟩, .transition ⟨x 1, "b", x 0⟩]
    let T := (Table.make .unowned : Table String).after [.add (x 0) "a" (x 1), .add (x 1) "b" (x 0)]
    let U := (Table.make .unowned : Table String).after [.add (x 1) "b" (x 0), .add (x 0) "a" (x 1)]
    ((build as).drawing r).text = ((build bs).drawing r).text ∧
      T.Reachable ∧ U.Reachable ∧ ((ofTable T).drawing r).text = ((ofTable U).drawing r).text ∧
      ((build as).drawing r).text ≠ ((build cs).drawing r).text := by
  intro x r as bs cs T U
  obtain ⟨hbuilt, htables, hdetermined⟩ := text_drawing_rearranged (σ := String) r
  have hT : T.Reachable := ⟨.unowned, _, rfl⟩
  have hU : U.Reachable := ⟨.unowned, _, rfl⟩
  refine ⟨hbuilt as bs ⟨?_, ?_⟩, hT, hU, htables T U hT hU ?_ ?_, ?_⟩
  · intro y
    rw [Bool.eq_iff_iff, ← mem_keys_index_iff, ← mem_keys_index_iff, mem_keys_index_build,
      mem_keys_index_build]
    simp only [as, bs, mentionedStates, List.mem_cons]
    grind
  · intro y z
    by_cases hback : Transition.joins y z ⟨x 1, "b", x 0⟩ = true
    · obtain ⟨rfl, rfl⟩ := Transition.joins_iff.1 hback
      decide
    · simp [as, bs, addedTransitions, List.filter_cons, hback]
  · have hlistT : T.toList = [⟨x 0, "a", x 1⟩, ⟨x 1, "b", x 0⟩] := by decide
    have hlistU : U.toList = [⟨x 1, "b", x 0⟩, ⟨x 0, "a", x 1⟩] := by decide
    intro t
    rw [hlistT, hlistU, List.mem_pair, List.mem_pair, or_comm]
  · decide
  · intro htext
    have halike := hdetermined (fun _ _ h => h) .first as cs (by decide) (by decide) htext
    have hbetween := halike.between (x 0) (x 1)
    revert hbetween
    decide

end Graph
end GotoAutomaton
