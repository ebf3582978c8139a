import GotoAutomaton.Data.FirstSeen
import GotoAutomaton.Data.OrderedMap
import GotoAutomaton.Session.Shift
import Mathlib.Data.List.Nodup
import Mathlib.Logic.Function.Basic

/-!
# Renaming and shifted registries

A renaming that keeps different things different is not noticed by a map whose keys are renamed, nor
by a list of which the first occurrences are taken.  Adding a number to every tag is such a
renaming, and that different tags stay different is all that a registry looks at.  The order of
identifiers is kept only as long as no tag runs over the last one.

Main statements: what a renamed map finds under a renamed key (`OrderedMap.get?_rename`), that
inserting commutes with renaming (`OrderedMap.insert_rename`), and that first occurrences do
(`distinct_map`); `StateId.shift_injective`, `StateId.sort_shift`, and that every operation on
registries commutes with shifting, up to the check of an identifier (`Registry.check_shift`).
-/

namespace GotoAutomaton

theorem firstSeen_map
    {α β : Type}
    [DecidableEq α]
    [DecidableEq β]
    {f : α → β}
    (hf : Function.Injective f)
    (seen xs : List α) :
    firstSeen (seen.map f) (xs.map f) = (firstSeen seen xs).map f := by
  induction xs generalizing seen with
  | nil =>
      rfl
  | cons x xs ih =>
      have hrest := ih (x :: seen)
      rw [List.map_cons] at hrest
      by_cases hx : x ∈ seen <;>
        simp [firstSeen, List.mem_map_of_injective hf, hx, ih, hrest]

theorem distinct_map
    {α β : Type}
    [DecidableEq α]
    [DecidableEq β]
    {f : α → β}
    (hf : Function.Injective f)
    (xs : List α) :
    distinct (xs.map f) = (distinct xs).map f :=
  firstSeen_map hf [] xs

namespace OrderedMap

variable {κ κ' ν ν' : Type} {f : κ → κ'}

/-- The map with its keys renamed and its values changed, in the same order. -/
def rename
    (f : κ → κ')
    (hf : Function.Injective f)
    (g : ν → ν')
    (m : OrderedMap κ ν) :
    OrderedMap κ' ν' where
  entries := m.entries.map fun e => (f e.1, g e.2)
  nodup_keys := by
    have hkeys : (m.entries.map fun e => (f e.1, g e.2)).map Prod.fst =
        (m.entries.map Prod.fst).map f := by
      simp
    rw [hkeys]
    exact m.nodup_keys.map hf

variable (hf : Function.Injective f) (g : ν → ν')

@[simp] theorem rename_empty : (empty : OrderedMap κ ν).rename f hf g = empty := by
  rfl

@[simp] theorem size_rename (m : OrderedMap κ ν) : (m.rename f hf g).size = m.size := by
  simp [rename, size]

theorem keys_rename (m : OrderedMap κ ν) : (m.rename f hf g).keys = m.keys.map f := by
  simp [rename, keys]

variable [DecidableEq κ] [DecidableEq κ']

include hf in
theorem find_map
    (k : κ)
    (es : List (κ × ν)) :
    find (f k) (es.map fun e => (f e.1, g e.2)) = (find k es).map g := by
  induction es with
  | nil =>
      rfl
  | cons e es ih =>
      by_cases hk : e.1 = k <;> simp [find, hf.eq_iff, hk, ih]

include hf in
theorem place_map
    (k : κ)
    (v : ν)
    (es : List (κ × ν)) :
    place (f k) (g v) (es.map fun e => (f e.1, g e.2)) =
      (place k v es).map fun e => (f e.1, g e.2) := by
  induction es with
  | nil =>
      rfl
  | cons e es ih =>
      by_cases hk : e.1 = k <;> simp [place, hf.eq_iff, hk, ih]

@[simp] theorem get?_rename
    (m : OrderedMap κ ν)
    (k : κ) :
    (m.rename f hf g).get? (f k) = (m.get? k).map g :=
  find_map hf g k m.entries

@[simp] theorem contains_rename
    (m : OrderedMap κ ν)
    (k : κ) :
    (m.rename f hf g).contains (f k) = m.contains k := by
  simp [contains]

theorem insert_rename
    (m : OrderedMap κ ν)
    (k : κ)
    (v : ν) :
    (m.rename f hf g).insert (f k) (g v) = (m.insert k v).rename f hf g :=
  ext_entries (place_map hf g k v m.entries)

end OrderedMap

variable (k : UInt32)

theorem Tag.shift_injective : Function.Injective (Tag.shift k) := by
  rintro ⟨a⟩ ⟨b⟩ h
  have hsum : a + k = b + k := congrArg Tag.number h
  rw [(UInt32.add_left_inj k).1 hsum]

@[simp] theorem Tag.shift_inj {s t : Tag} : s.shift k = t.shift k ↔ s = t :=
  (Tag.shift_injective k).eq_iff

/-- Minting goes on after a shifted tag as it does after the tag, also over the last tag. -/
theorem Tag.next_shift (t : Tag) : (t.shift k).next = t.next.shift k := by
  obtain ⟨a⟩ := t
  simp only [Tag.next, Tag.shift, UInt32.add_assoc, UInt32.add_comm k]

namespace StateId

theorem shift_injective : Function.Injective (shift k) := by
  rintro ⟨s, i⟩ ⟨t, j⟩ h
  have htag : s = t := Tag.shift_injective k (congrArg automaton h)
  have hindex : i = j := congrArg index h
  rw [htag, hindex]

@[simp] theorem shift_inj {x y : StateId} : x.shift k = y.shift k ↔ x = y :=
  (shift_injective k).eq_iff

@[simp] theorem text_shift (x : StateId) : (x.shift k).text = x.text := by
  rfl

variable {k}

theorem Fits.toNat_shift
    {x : StateId}
    (hx : x.Fits k) :
    (x.shift k).automaton.number.toNat = x.automaton.number.toNat + k.toNat := by
  rw [Fits, UInt32.size] at hx
  simp only [shift, Tag.shift, UInt32.toNat_add]
  omega

/-- The order of identifiers is kept where no tag runs over the last one. -/
theorem le_shift
    {x y : StateId}
    (hx : x.Fits k)
    (hy : y.Fits k) :
    (x.shift k).le (y.shift k) = x.le y := by
  have htag : (x.shift k).automaton = (y.shift k).automaton ↔ x.automaton = y.automaton :=
    Tag.shift_inj k
  rw [Bool.eq_iff_iff, le_iff, le_iff, hx.toNat_shift, hy.toNat_shift, htag,
    Nat.add_lt_add_iff_right]
  rfl

theorem sort_shift
    {xs : List StateId}
    (hxs : ∀ x ∈ xs, x.Fits k) :
    sort (xs.map (shift k)) = (sort xs).map (shift k) := by
  refine (List.map_mergeSort ?_).symm
  intro x hx y hy
  exact (le_shift (hxs x hx) (hxs y hy)).symm

end StateId

@[simp] theorem State.short_shift (s : State) : (s.shift k).short = s.short := by
  obtain ⟨x, label⟩ := s
  cases label <;> rfl

namespace Registry

def shift (r : Registry) : Registry :=
  ⟨r.tag.shift k, r.states.map (State.shift k)⟩

theorem empty_shift (t : Tag) : empty (t.shift k) = (empty t).shift k := by
  simp [empty, shift]

@[simp] theorem tag_shift (r : Registry) : (r.shift k).tag = r.tag.shift k := by
  rfl

theorem toList_states_shift (r : Registry) :
    (r.shift k).states.toList = r.states.toList.map (State.shift k) := by
  simp [shift]

@[simp] theorem size_shift (r : Registry) : (r.shift k).size = r.size := by
  simp [shift, size]

@[simp] theorem nextId_shift (r : Registry) : (r.shift k).nextId = r.nextId.shift k := by
  simp [nextId, shift, size, StateId.shift]

@[simp] theorem add_shift
    (r : Registry)
    (label : Option String) :
    (r.shift k).add label = (r.add label).shift k := by
  rw [add, nextId_shift]
  simp [add, shift, State.shift]

@[simp] theorem addMany_shift
    (r : Registry)
    (n : Nat) :
    (r.shift k).addMany n = (r.addMany n).shift k := by
  induction n generalizing r with
  | zero =>
      rfl
  | succ n ih =>
      rw [addMany, add_shift, ih, addMany]

theorem retag_shift
    (r : Registry)
    (t : Tag) :
    (r.shift k).retag (t.shift k) = (r.retag t).shift k := by
  simp [retag, shift, State.shift, StateId.shift, Function.comp_def]

@[simp] theorem ids_shift (r : Registry) : (r.shift k).ids = r.ids.map (StateId.shift k) := by
  simp [ids, shift, State.shift, Function.comp_def]

@[simp] theorem get?_shift
    (r : Registry)
    (x : StateId) :
    (r.shift k).get? (x.shift k) = (r.get? x).map (State.shift k) := by
  by_cases hx : x.automaton = r.tag <;> simp [get?, shift, StateId.shift, hx]

@[simp] theorem contains_shift
    (r : Registry)
    (x : StateId) :
    (r.shift k).contains (x.shift k) = r.contains x := by
  simp [contains_eq_isSome_get?]

/-- A refusal names the shifted identifier and the shifted tag. -/
theorem check_shift
    (r : Registry)
    (x : StateId) :
    (r.shift k).check (x.shift k) = (r.check x).mapError (Error.shift k) := by
  rw [check, check, contains_shift]
  split <;> rfl

end Registry

end GotoAutomaton
