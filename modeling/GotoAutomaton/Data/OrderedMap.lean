/-!
# Ordered maps

A finite map that lists its keys in the order in which they were first inserted.  Inserting a key
anew replaces its value and leaves the order alone.

Main statements: what a look-up finds after an insertion (`get?_insert`), what the keys are then
(`keys_insert`), and that a map is known by its entries (`ext_entries`), or by its keys and what it
finds (`ext_get?`).
-/

namespace GotoAutomaton

/-- A finite map from `κ` to `ν` that remembers the order of first insertion. -/
structure OrderedMap (κ ν : Type) where
  entries : List (κ × ν)
  /-- No key has two values. -/
  nodup_keys : (entries.map Prod.fst).Nodup

namespace OrderedMap

variable {κ ν : Type}

def empty : OrderedMap κ ν :=
  ⟨[], List.nodup_nil⟩

/-- The keys in order of first insertion. -/
def keys (m : OrderedMap κ ν) : List κ :=
  m.entries.map Prod.fst

def size (m : OrderedMap κ ν) : Nat :=
  m.entries.length

variable [DecidableEq κ]

/-- The value listed with a key. -/
def find (k : κ) : List (κ × ν) → Option ν
  | [] => none
  | (k', v) :: es => if k' = k then some v else find k es

/-- Lists a value with a key, in the place the key already has or else at the end. -/
def place (k : κ) (v : ν) : List (κ × ν) → List (κ × ν)
  | [] => [(k, v)]
  | (k', v') :: es => if k' = k then (k, v) :: es else (k', v') :: place k v es

theorem map_fst_place
    (k : κ)
    (v : ν)
    (es : List (κ × ν)) :
    (place k v es).map Prod.fst =
      if k ∈ es.map Prod.fst then es.map Prod.fst else es.map Prod.fst ++ [k] := by
  induction es with
  | nil =>
      simp [place]
  | cons e es ih =>
      obtain ⟨k', v'⟩ := e
      by_cases hk : k' = k
      · simp [place, hk]
      · have hk' : ¬ k = k' := fun h => hk h.symm
        simp only [place, if_neg hk, List.map_cons, ih, List.mem_cons, hk', false_or]
        split <;> simp

theorem nodup_map_fst_place
    (k : κ)
    (v : ν)
    {es : List (κ × ν)}
    (hes : (es.map Prod.fst).Nodup) :
    ((place k v es).map Prod.fst).Nodup := by
  rw [map_fst_place]
  split
  · exact hes
  · next hk =>
      rw [List.nodup_append]
      refine ⟨hes, by simp, ?_⟩
      intro a ha b hb hab
      rw [List.mem_singleton.1 hb] at hab
      exact hk (hab ▸ ha)

theorem find_place
    (k k' : κ)
    (v : ν)
    (es : List (κ × ν)) :
    find k' (place k v es) = if k = k' then some v else find k' es := by
  induction es with
  | nil =>
      simp [place, find]
  | cons e es ih =>
      obtain ⟨k'', v''⟩ := e
      by_cases hk : k'' = k
      · by_cases hk' : k = k' <;> simp [place, find, hk, hk']
      · by_cases hk' : k'' = k'
        · subst hk'
          have h : ¬ k = k'' := fun h => hk h.symm
          simp [place, find, hk, h]
        · simp [place, find, hk, hk', ih]

theorem find_eq_none_iff
    {k : κ}
    {es : List (κ × ν)} :
    find k es = none ↔ k ∉ es.map Prod.fst := by
  induction es with
  | nil =>
      simp [find]
  | cons e es ih =>
      obtain ⟨k', v⟩ := e
      by_cases hk : k' = k
      · simp [find, hk]
      · have hk' : ¬ k = k' := fun h => hk h.symm
        simp only [find, if_neg hk, ih, List.map_cons, List.mem_cons, hk', false_or]

theorem find_append
    (k : κ)
    (es es' : List (κ × ν)) :
    find k (es ++ es') = (find k es).or (find k es') := by
  induction es with
  | nil =>
      rfl
  | cons e es ih =>
      obtain ⟨k', v⟩ := e
      by_cases hk : k' = k <;> simp [find, hk, ih]

theorem find_eq_some_iff
    {k : κ}
    {v : ν}
    {es : List (κ × ν)}
    (hes : (es.map Prod.fst).Nodup) :
    find k es = some v ↔ (k, v) ∈ es := by
  induction es with
  | nil =>
      simp [find]
  | cons e es ih =>
      obtain ⟨k', v'⟩ := e
      rw [List.map_cons, List.nodup_cons] at hes
      by_cases hk : k' = k
      · subst hk
        have hrest : (k', v) ∉ es := fun h => hes.1 (List.mem_map.2 ⟨(k', v), h, rfl⟩)
        simp [find, hrest, eq_comm]
      · have hk' : ¬ k = k' := fun h => hk h.symm
        simp [find, hk, hk', ih hes.2]

/-- A key that is not listed is listed last. -/
theorem place_of_not_mem
    {k : κ}
    {es : List (κ × ν)}
    (hk : k ∉ es.map Prod.fst)
    (v : ν) :
    place k v es = es ++ [(k, v)] := by
  induction es with
  | nil =>
      rfl
  | cons e es ih =>
      obtain ⟨k', v'⟩ := e
      simp only [List.map_cons, List.mem_cons, not_or] at hk
      have hk' : ¬ k' = k := fun h => hk.1 h.symm
      rw [place, if_neg hk', ih hk.2, List.cons_append]

/-- Of two values listed with one key the later stays. -/
theorem place_place
    (k : κ)
    (v w : ν)
    (es : List (κ × ν)) :
    place k w (place k v es) = place k w es := by
  induction es with
  | nil =>
      simp [place]
  | cons e es ih =>
      obtain ⟨k', v'⟩ := e
      by_cases hk : k' = k <;> simp [place, hk, ih]

def get? (m : OrderedMap κ ν) (k : κ) : Option ν :=
  find k m.entries

def contains (m : OrderedMap κ ν) (k : κ) : Bool :=
  (m.get? k).isSome

/-- Gives a key a value, the place of a known key kept and a new key put last. -/
def insert (m : OrderedMap κ ν) (k : κ) (v : ν) : OrderedMap κ ν :=
  ⟨place k v m.entries, nodup_map_fst_place k v m.nodup_keys⟩

/-- Gives a key a value unless it has one. -/
def insertIfNew (m : OrderedMap κ ν) (k : κ) (v : ν) : OrderedMap κ ν :=
  if m.contains k then m else m.insert k v

/-- A map is known by its entries in their order. -/
theorem ext_entries
    {κ ν : Type}
    {m n : OrderedMap κ ν}
    (h : m.entries = n.entries) :
    m = n := by
  obtain ⟨es, hes⟩ := m
  obtain ⟨fs, hfs⟩ := n
  cases h
  rfl

@[simp] theorem get?_empty (k : κ) : (empty : OrderedMap κ ν).get? k = none := by
  rfl

theorem get?_insert
    (m : OrderedMap κ ν)
    (k k' : κ)
    (v : ν) :
    (m.insert k v).get? k' = if k = k' then some v else m.get? k' :=
  find_place k k' v m.entries

theorem keys_insert
    (m : OrderedMap κ ν)
    (k : κ)
    (v : ν) :
    (m.insert k v).keys = if k ∈ m.keys then m.keys else m.keys ++ [k] :=
  map_fst_place k v m.entries

theorem get?_eq_none_iff
    {m : OrderedMap κ ν}
    {k : κ} :
    m.get? k = none ↔ k ∉ m.keys :=
  find_eq_none_iff

/-- The value of a key is the one listed with it. -/
theorem get?_eq_some_iff
    {m : OrderedMap κ ν}
    {k : κ}
    {v : ν} :
    m.get? k = some v ↔ (k, v) ∈ m.entries :=
  find_eq_some_iff m.nodup_keys

/-- The entries are read off the keys by looking each of them up. -/
theorem map_some_entries (m : OrderedMap κ ν) :
    m.entries.map some = m.keys.map fun k => (m.get? k).map fun v => (k, v) := by
  rw [keys, List.map_map]
  refine List.map_congr_left fun e he => ?_
  rw [Function.comp_apply, get?_eq_some_iff.2 he, Option.map_some]

/-- A map is known by its keys in their order and by what it finds. -/
theorem ext_get?
    {m n : OrderedMap κ ν}
    (hkeys : m.keys = n.keys)
    (hget : ∀ k, m.get? k = n.get? k) :
    m = n := by
  have hentries : m.entries.map some = n.entries.map some := by
    rw [map_some_entries, map_some_entries, hkeys]
    simp only [hget]
  exact ext_entries ((List.map_inj_right fun _ _ => Option.some.inj).1 hentries)

/-- A new key comes last with its value. -/
theorem entries_insert_of_not_mem
    {m : OrderedMap κ ν}
    {k : κ}
    (hk : k ∉ m.keys)
    (v : ν) :
    (m.insert k v).entries = m.entries ++ [(k, v)] :=
  place_of_not_mem hk v

/-- Of two values given to one key the later stays. -/
theorem insert_insert
    (m : OrderedMap κ ν)
    (k : κ)
    (v w : ν) :
    (m.insert k v).insert k w = m.insert k w :=
  ext_entries (place_place k v w m.entries)

/-- A key that has a value keeps it. -/
theorem insertIfNew_of_get?
    {m : OrderedMap κ ν}
    {k : κ}
    {v : ν}
    (hk : m.get? k = some v)
    (w : ν) :
    m.insertIfNew k w = m := by
  simp [insertIfNew, contains, hk]

/-- A key without a value gets it. -/
theorem insertIfNew_of_get?_eq_none
    {m : OrderedMap κ ν}
    {k : κ}
    (hk : m.get? k = none)
    (w : ν) :
    m.insertIfNew k w = m.insert k w := by
  simp [insertIfNew, contains, hk]

end OrderedMap

end GotoAutomaton
