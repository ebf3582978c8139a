import GotoAutomaton.Log
import GotoAutomaton.Table.Basic

/-!
# Insertion into tables

Every operation that changes a table gives the table after it, its result, and what it reports.

* `insert` takes one transition.  A frozen table refuses everything; an owned table then refuses
  states of other automata, the origin first; a transition the table already has is no change; a
  transition that would give a pair of state and symbol a second destination is a conflict.
* `insertAll` takes a batch.  The first two checks are made for the whole batch before anything is
  inserted; conflicts are collected and do not stop the batch.
* `freeze` closes the table for good.

Main statements: an open row changes no look-up and no insertion (`lookup_openRow`,
`push_openRow`), so that only a new transition changes the table (`enter_of_lookup_eq_none`,
`enter_of_lookup_eq_destination`, `enter_of_lookup_eq_some`).
-/

namespace GotoAutomaton

/-- A table after an operation, with the operation's result and its report. -/
structure Outcome (σ α : Type) where
  table : Table σ
  result : Except Error α
  events : List (Event σ)

namespace Table

variable {σ : Type}

/-- Closes the table for good; only the first time is reported. -/
def freeze (T : Table σ) : Table σ × List (Event σ) :=
  if T.frozen then (T, [])
  else ({ T with frozen := true }, [.frozen T.size T.rows.size])

/-- The first end of a transition that is not of the owner's automaton. -/
def foreign? (owner : Tag) (t : Transition σ) : Option StateId :=
  t.endpoints.find? fun x => decide (x.automaton ≠ owner)

variable [Symbol σ]

/-- Why a transition is not to be inserted, whatever transitions the table has, and what is
reported about it. -/
def obstacle? (T : Table σ) (t : Transition σ) : Option (Error × List (Event σ)) :=
  if T.frozen then
    some (.frozenTable t.origin (Symbol.text t.symbol), [])
  else
    match T.owner with
    | none => none
    | some owner =>
        (foreign? owner t).map fun x => (.foreignState x owner, [.rejecting t x])

variable [DecidableEq σ]

/-- The conflict of a transition with the destination that its origin and symbol already have. -/
def conflictWith (t : Transition σ) (existing : StateId) : Conflict :=
  ⟨t.origin, Symbol.text t.symbol, existing, t.destination⟩

/-- Makes sure that a state has a row, be it one without transitions. -/
def openRow (T : Table σ) (x : StateId) : Table σ :=
  { T with rows := T.rows.insertIfNew x .empty }

/-- Enters a transition against which there is no obstacle; the result tells whether it is new.
The row of the origin is opened before it is known whether anything comes into it. -/
def enter (T : Table σ) (t : Transition σ) : Outcome σ Bool :=
  let U := T.openRow t.origin
  match U.lookup t.origin t.symbol with
  | none => ⟨U.push t, .ok true, [.inserting t]⟩
  | some existing =>
      if existing = t.destination then
        ⟨U, .ok false, [.alreadyPresent t]⟩
      else
        let c := conflictWith t existing
        ⟨U, .error (.conflict c), [.refusing c]⟩

/-- Inserts a transition; the result tells whether it is new. -/
def insert (T : Table σ) (t : Transition σ) : Outcome σ Bool :=
  match T.obstacle? t with
  | some (error, events) => ⟨T, .error error, events⟩
  | none => T.enter t

def add (T : Table σ) (origin : StateId) (symbol : σ) (destination : StateId) : Outcome σ Bool :=
  T.insert ⟨origin, symbol, destination⟩

/-- How far a batch has come. -/
structure Progress (σ : Type) where
  table : Table σ
  added : Nat
  /-- The refused insertions, in batch order. -/
  refused : List Conflict
  /-- What stopped the batch before its end. -/
  stopped : Option Error
  events : List (Event σ)

/-- Inserts the transitions of a batch one after the other and goes on over conflicts. -/
def insertEach (T : Table σ) : List (Transition σ) → Progress σ
  | [] => ⟨T, 0, [], none, []⟩
  | t :: ts =>
      let o := T.insert t
      match o.result with
      | .ok new =>
          let rest := insertEach o.table ts
          { rest with
            added := (if new then 1 else 0) + rest.added
            events := o.events ++ rest.events }
      | .error (.conflict c) =>
          let rest := insertEach o.table ts
          { rest with
            refused := c :: rest.refused
            events := o.events ++ rest.events }
      | .error error => ⟨o.table, 0, [], some error, o.events⟩

/-- Inserts a batch; the result is the number of new transitions, or the conflicts if any. -/
def insertAll (T : Table σ) (batch : List (Transition σ)) : Outcome σ Nat :=
  match batch.findSome? T.obstacle? with
  | some (error, events) => ⟨T, .error error, events⟩
  | none =>
      let p := T.insertEach batch
      match p.stopped with
      | some error => ⟨p.table, .error error, p.events⟩
      | none =>
          if p.refused.isEmpty then
            ⟨p.table, .ok p.added, p.events⟩
          else
            ⟨p.table, .error (.conflicts p.refused),
              p.events ++ [.batchRefusals p.refused.length p.added]⟩

omit [Symbol σ] in
/-- An open row has no transitions to look up. -/
theorem lookup_openRow
    (T : Table σ)
    (x y : StateId)
    (a : σ) :
    (T.openRow x).lookup y a = T.lookup y a := by
  cases hrow : T.rows.get? x with
  | some row =>
      rw [openRow, OrderedMap.insertIfNew_of_get? hrow]
  | none =>
      by_cases hxy : x = y
      · subst hxy
        simp [openRow, lookup, OrderedMap.insertIfNew_of_get?_eq_none hrow, OrderedMap.get?_insert,
          hrow, Row.empty]
      · simp [openRow, lookup, OrderedMap.insertIfNew_of_get?_eq_none hrow, OrderedMap.get?_insert,
          hxy]

omit [Symbol σ] in
/-- A state with a transition has a row. -/
theorem openRow_of_lookup
    {T : Table σ}
    {x y : StateId}
    {a : σ}
    (h : T.lookup x a = some y) :
    T.openRow x = T := by
  obtain ⟨row, hrow, -⟩ := Option.bind_eq_some_iff.1 h
  rw [openRow, OrderedMap.insertIfNew_of_get? hrow]

omit [Symbol σ] in
/-- A transition goes into an open row as it goes into a row that is missing. -/
theorem push_openRow
    (T : Table σ)
    (t : Transition σ) :
    (T.openRow t.origin).push t = T.push t := by
  cases hrow : T.rows.get? t.origin with
  | some row =>
      rw [openRow, OrderedMap.insertIfNew_of_get? hrow]
  | none =>
      simp [openRow, push, size, OrderedMap.insertIfNew_of_get?_eq_none hrow,
        OrderedMap.get?_insert, OrderedMap.insert_insert, hrow]

/-- A pair of state and symbol without a destination gets one. -/
theorem enter_of_lookup_eq_none
    {T : Table σ}
    {t : Transition σ}
    (h : T.lookup t.origin t.symbol = none) :
    T.enter t = ⟨T.push t, .ok true, [.inserting t]⟩ := by
  simp [enter, lookup_openRow, push_openRow, h]

/-- A transition that the table has changes nothing. -/
theorem enter_of_lookup_eq_destination
    {T : Table σ}
    {t : Transition σ}
    (h : T.lookup t.origin t.symbol = some t.destination) :
    T.enter t = ⟨T, .ok false, [.alreadyPresent t]⟩ := by
  simp [enter, openRow_of_lookup h, h]

/-- A second destination for a pair of state and symbol is refused and changes nothing. -/
theorem enter_of_lookup_eq_some
    {T : Table σ}
    {t : Transition σ}
    {y : StateId}
    (h : T.lookup t.origin t.symbol = some y)
    (hy : y ≠ t.destination) :
    T.enter t =
      ⟨T, .error (.conflict (conflictWith t y)), [.refusing (conflictWith t y)]⟩ := by
  simp [enter, openRow_of_lookup h, h, hy]

end Table

end GotoAutomaton
