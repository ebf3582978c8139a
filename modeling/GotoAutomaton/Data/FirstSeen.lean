/-!
# First occurrences

`firstSeen seen xs` runs through `xs` and keeps what it meets for the first time, given what was
seen before.  Started with nothing seen it lists the distinct elements in order of first
occurrence.

Main statements: the result has no repetition, nothing of it was seen before, and it misses
nothing; and what is added at the end is listed at the end unless it was there already
(`distinct_concat`).
-/

namespace GotoAutomaton

variable {α : Type} [DecidableEq α]

/-- The elements not seen before, each at its first occurrence only. -/
def firstSeen (seen : List α) : List α → List α
  | [] => []
  | x :: xs =>
      if x ∈ seen then firstSeen seen xs
      else x :: firstSeen (x :: seen) xs

/-- The distinct elements in order of first occurrence. -/
def distinct (xs : List α) : List α :=
  firstSeen [] xs

theorem mem_firstSeen
    {seen xs : List α}
    {y : α} :
    y ∈ firstSeen seen xs ↔ y ∈ xs ∧ y ∉ seen := by
  induction xs generalizing seen with
  | nil =>
      simp [firstSeen]
  | cons x xs ih =>
      by_cases hx : x ∈ seen
      · rw [firstSeen, if_pos hx, ih]
        grind
      · rw [firstSeen, if_neg hx, List.mem_cons, ih]
        grind

theorem nodup_firstSeen (seen xs : List α) : (firstSeen seen xs).Nodup := by
  induction xs generalizing seen with
  | nil =>
      simp [firstSeen]
  | cons x xs ih =>
      by_cases hx : x ∈ seen
      · rw [firstSeen, if_pos hx]
        exact ih seen
      · rw [firstSeen, if_neg hx, List.nodup_cons]
        exact ⟨by simp [mem_firstSeen], ih _⟩

theorem mem_distinct
    {xs : List α}
    {y : α} :
    y ∈ distinct xs ↔ y ∈ xs := by
  simp [distinct, mem_firstSeen]

theorem nodup_distinct (xs : List α) : (distinct xs).Nodup :=
  nodup_firstSeen [] xs

theorem firstSeen_concat
    (seen xs : List α)
    (y : α) :
    firstSeen seen (xs ++ [y]) =
      if y ∈ seen ∨ y ∈ xs then firstSeen seen xs else firstSeen seen xs ++ [y] := by
  induction xs generalizing seen with
  | nil =>
      by_cases hy : y ∈ seen <;> simp [firstSeen, hy]
  | cons x xs ih =>
      by_cases hx : x ∈ seen
      · simp only [List.cons_append, firstSeen, if_pos hx, ih, List.mem_cons]
        grind
      · simp only [List.cons_append, firstSeen, if_neg hx, ih, List.mem_cons]
        grind

/-- What is added at the end is listed behind everything else. -/
theorem firstSeen_prefix_append
    (seen xs ys : List α) :
    firstSeen seen xs <+: firstSeen seen (xs ++ ys) := by
  induction xs generalizing seen with
  | nil =>
      exact List.nil_prefix
  | cons x xs ih =>
      by_cases hx : x ∈ seen
      · simpa only [List.cons_append, firstSeen, if_pos hx] using ih seen
      · simpa only [List.cons_append, firstSeen, if_neg hx] using
          List.prefix_cons_inj x |>.2 (ih (x :: seen))

theorem distinct_prefix
    {xs ys : List α}
    (h : xs <+: ys) :
    distinct xs <+: distinct ys := by
  obtain ⟨zs, rfl⟩ := h
  exact firstSeen_prefix_append [] xs zs

theorem distinct_concat
    (xs : List α)
    (y : α) :
    distinct (xs ++ [y]) = if y ∈ xs then distinct xs else distinct xs ++ [y] := by
  simp [distinct, firstSeen_concat]

end GotoAutomaton
