/-!
# Automaton tags, state identifiers and states

Every automaton carries a tag, a 32-bit word, and every state of an automaton is named by that tag
together with its position.  Identifiers are ordered by tag first and by position second; this is
the order of every sorted list of states in the library.  A state carries its identifier and,
optionally, a label for human readers.

Main statements: the order is total, transitive and antisymmetric, `compare` agrees with it, and
sorting distinct identifiers puts each strictly before the next (`pairwise_precedes_sort`).
-/

namespace GotoAutomaton

/-- The word shared by every state of one automaton. -/
structure Tag where
  number : UInt32
  deriving DecidableEq

namespace Tag

/-- The tag of the first automaton. -/
def first : Tag :=
  ⟨0⟩

/-- The tag minted after this one; after the last word minting starts again at zero. -/
def next (k : Tag) : Tag :=
  ⟨k.number + 1⟩

/-- A tag is printed behind a hash sign. -/
def text (k : Tag) : String :=
  "#" ++ k.number.toNat.repr

end Tag

/-- The name of a state: the tag of its automaton and its position there. -/
structure StateId where
  automaton : Tag
  index : Nat
  deriving DecidableEq

namespace StateId

/-- An identifier is printed by its position alone, so those of two automata may look alike. -/
def text (x : StateId) : String :=
  "S" ++ x.index.repr

/-- Identifiers of one automaton go by position, those of two automata by tag. -/
def le (x y : StateId) : Bool :=
  if x.automaton = y.automaton then decide (x.index ≤ y.index)
  else decide (x.automaton.number < y.automaton.number)

/-- The strict order: by tag, and within one automaton by position. -/
def Precedes (x y : StateId) : Prop :=
  x.automaton.number < y.automaton.number ∨ x.automaton = y.automaton ∧ x.index < y.index

def compare (x y : StateId) : Ordering :=
  if x = y then .eq else if x.le y then .lt else .gt

/-- The identifiers in ascending order, repetitions kept. -/
def sort (xs : List StateId) : List StateId :=
  xs.mergeSort le

theorem le_iff
    (x y : StateId) :
    x.le y = true ↔
      x.automaton.number.toNat < y.automaton.number.toNat ∨
        x.automaton = y.automaton ∧ x.index ≤ y.index := by
  obtain ⟨⟨a⟩, i⟩ := x
  obtain ⟨⟨b⟩, j⟩ := y
  by_cases h : a = b
  · subst h
    simp [le]
  · simp [le, h, UInt32.lt_iff_toNat_lt]

theorem le_refl (x : StateId) : x.le x = true := by
  simp [le]

theorem le_trans
    (x y z : StateId)
    (hxy : x.le y = true)
    (hyz : y.le z = true) :
    x.le z = true := by
  rw [le_iff] at *
  rcases hxy with h | ⟨h, hi⟩ <;> rcases hyz with k | ⟨k, hj⟩
  · exact Or.inl (Nat.lt_trans h k)
  · exact Or.inl (k ▸ h)
  · exact Or.inl (h ▸ k)
  · exact Or.inr ⟨h.trans k, Nat.le_trans hi hj⟩

theorem le_total (x y : StateId) : (x.le y || y.le x) = true := by
  rw [Bool.or_eq_true, le_iff, le_iff]
  rcases Nat.lt_trichotomy x.automaton.number.toNat y.automaton.number.toNat with h | h | h
  · exact Or.inl (Or.inl h)
  · have hk : x.automaton = y.automaton := by
      obtain ⟨⟨a⟩, i⟩ := x
      obtain ⟨⟨b⟩, j⟩ := y
      simpa using UInt32.toNat_inj.1 h
    rcases Nat.le_total x.index y.index with hi | hi
    · exact Or.inl (Or.inr ⟨hk, hi⟩)
    · exact Or.inr (Or.inr ⟨hk.symm, hi⟩)
  · exact Or.inr (Or.inl h)

theorem le_antisymm
    {x y : StateId}
    (hxy : x.le y = true)
    (hyx : y.le x = true) :
    x = y := by
  rw [le_iff] at *
  obtain ⟨a, i⟩ := x
  obtain ⟨b, j⟩ := y
  rcases hxy with h | ⟨h, hi⟩ <;> rcases hyx with k | ⟨k, hj⟩ <;> simp_all <;> omega

theorem precedes_of_le_of_ne
    {x y : StateId}
    (hle : x.le y = true)
    (hne : x ≠ y) :
    x.Precedes y := by
  rw [le_iff] at hle
  rcases hle with h | ⟨htag, hindex⟩
  · exact Or.inl (UInt32.lt_iff_toNat_lt.2 h)
  · have hindex' : x.index ≠ y.index := by
      intro h
      exact hne (by cases x; cases y; simp_all)
    exact Or.inr ⟨htag, by omega⟩

theorem mem_sort
    {xs : List StateId}
    {x : StateId} :
    x ∈ sort xs ↔ x ∈ xs :=
  (List.mergeSort_perm xs le).mem_iff

theorem pairwise_precedes_sort
    {xs : List StateId}
    (hxs : xs.Nodup) :
    (sort xs).Pairwise Precedes := by
  have hsorted : (sort xs).Pairwise fun x y => x.le y = true :=
    List.pairwise_mergeSort le_trans le_total xs
  have hnodup : (sort xs).Nodup := (List.mergeSort_perm xs le).nodup_iff.2 hxs
  exact hsorted.imp₂ (fun _ _ => precedes_of_le_of_ne) hnodup

theorem compare_eq_eq_iff (x y : StateId) : x.compare y = .eq ↔ x = y := by
  unfold compare
  split
  · simp_all
  · split <;> simp_all

end StateId

structure State where
  id : StateId
  label : Option String
  deriving DecidableEq

namespace State

/-- The printed identifier, followed by the label in parentheses when there is one. -/
def short (s : State) : String :=
  match s.label with
  | none => s.id.text
  | some label => s.id.text ++ " (" ++ label ++ ")"

end State

end GotoAutomaton
