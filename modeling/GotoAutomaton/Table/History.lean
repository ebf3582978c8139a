import GotoAutomaton.Table.Insert

/-!
# Histories of tables

A table is made in one of a few ways and changes by insertions, batches of insertions and freezing;
it can also be copied.  A history is a list of changes; running it from a table gives the table
after it and the verdict on each change.

A ledger is the plainest transition table: a list of transitions in the order they were entered,
with an owner and a lock, in which everything is found by going through the list.  It says what a
table has to answer without any index.

Main statements: what happens in two histories one after the other (`after_append`), and that a
property of new tables which every change keeps is one of every reachable table
(`Reachable.induction`).
-/

namespace GotoAutomaton

/-- A way of making a table. -/
inductive Construction where
  /-- Without an owner, which is also the default. -/
  | unowned
  /-- Owned by the automaton of a registry. -/
  | owned (r : Registry)
  /-- As the settings ask for, with a registry at hand. -/
  | configured (r : Registry) (c : TableConfig)

inductive Change (σ : Type) where
  | insert (t : Transition σ)
  | add (origin : StateId) (symbol : σ) (destination : StateId)
  | insertAll (batch : List (Transition σ))
  | freeze
  /-- A copy is made, and the history goes on with the copy. -/
  | copy

/-- What is answered to a change. -/
inductive Verdict where
  | inserted (result : Except Error Bool)
  | insertedAll (result : Except Error Nat)
  | frozen
  /-- What the copy shows of itself. -/
  | copied (size : Nat) (frozen : Bool) (owner : Option Tag)

namespace Table

variable {σ : Type}

def make : Construction → Table σ
  | .unowned => unowned
  | .owned r => ownedBy r
  | .configured r c => withConfig r c

/-- Every way of making a table gives an open table without transitions. -/
theorem exists_make_eq_empty (k : Construction) :
    ∃ owner, (make k : Table σ) = empty owner := by
  cases k with
  | unowned =>
      exact ⟨none, rfl⟩
  | owned r =>
      exact ⟨some r.tag, rfl⟩
  | configured r c =>
      exact ⟨if c.checkOwnership then some r.tag else none, rfl⟩

variable [DecidableEq σ] [Symbol σ]

/-- The table after a change, and the verdict on the change. -/
def change (T : Table σ) : Change σ → Table σ × Verdict
  | .insert t =>
      let o := T.insert t
      (o.table, .inserted o.result)
  | .add x a y =>
      let o := T.add x a y
      (o.table, .inserted o.result)
  | .insertAll batch =>
      let o := T.insertAll batch
      (o.table, .insertedAll o.result)
  | .freeze => (T.freeze.1, .frozen)
  | .copy => (T, .copied T.size T.frozen T.owner)

/-- The table after a history, and the verdicts on its changes. -/
def run (T : Table σ) : List (Change σ) → Table σ × List Verdict
  | [] => (T, [])
  | c :: cs =>
      let (T', verdict) := T.change c
      let (T'', verdicts) := T'.run cs
      (T'', verdict :: verdicts)

def after (T : Table σ) (cs : List (Change σ)) : Table σ :=
  (T.run cs).1

/-- A table that some history from a new table leads to. -/
def Reachable (T : Table σ) : Prop :=
  ∃ k cs, T = (make k).after cs

@[simp] theorem after_nil (T : Table σ) : T.after [] = T := by
  rfl

@[simp] theorem after_cons
    (T : Table σ)
    (c : Change σ)
    (cs : List (Change σ)) :
    T.after (c :: cs) = (T.change c).1.after cs := by
  rfl

theorem after_append
    (T : Table σ)
    (cs ds : List (Change σ)) :
    T.after (cs ++ ds) = (T.after cs).after ds := by
  induction cs generalizing T with
  | nil =>
      rfl
  | cons c cs ih =>
      simp [ih]

theorem reachable_make (k : Construction) : (make k : Table σ).Reachable :=
  ⟨k, [], rfl⟩

theorem Reachable.after
    {T : Table σ}
    (hT : T.Reachable)
    (cs : List (Change σ)) :
    (T.after cs).Reachable := by
  obtain ⟨k, ds, rfl⟩ := hT
  exact ⟨k, ds ++ cs, (after_append _ ds cs).symm⟩

/-- What every change keeps, every history keeps. -/
theorem after_induction
    {P : Table σ → Prop}
    (hchange : ∀ T c, P T → P (T.change c).1)
    {T : Table σ}
    (hT : P T)
    (cs : List (Change σ)) :
    P (T.after cs) := by
  induction cs generalizing T with
  | nil =>
      exact hT
  | cons c cs ih =>
      exact ih (hchange T c hT)

/-- What holds of new tables and is kept by every change holds of every reachable table. -/
theorem Reachable.induction
    {P : Table σ → Prop}
    (hempty : ∀ owner, P (empty owner))
    (hchange : ∀ T c, P T → P (T.change c).1)
    {T : Table σ}
    (hT : T.Reachable) :
    P T := by
  obtain ⟨k, cs, rfl⟩ := hT
  obtain ⟨owner, hmake⟩ := exists_make_eq_empty (σ := σ) k
  exact after_induction hchange (hmake ▸ hempty owner) cs

end Table

/-- A list of transitions with an owner and a lock. -/
structure Ledger (σ : Type) where
  entries : List (Transition σ)
  owner : Option Tag
  locked : Bool

/-- The ledger of a table forgets the index. -/
def Table.ledger {σ : Type} (T : Table σ) : Ledger σ :=
  ⟨T.toList, T.owner, T.frozen⟩

namespace Ledger

variable {σ : Type}

/-- The ledger that is begun where a table is made: nothing is entered and nothing locked. -/
def make : Construction → Ledger σ
  | .unowned => ⟨[], none, false⟩
  | .owned r => ⟨[], some r.tag, false⟩
  | .configured r c => ⟨[], if c.checkOwnership then some r.tag else none, false⟩

def entriesFrom (L : Ledger σ) (x : StateId) : List (Transition σ) :=
  L.entries.filter fun t => decide (t.origin = x)

/-- The origins of the entries, each at its first occurrence only. -/
def origins (L : Ledger σ) : List StateId :=
  L.entries.foldl
    (fun xs t => if t.origin ∈ xs then xs else xs ++ [t.origin]) []

def symbolsFrom (L : Ledger σ) (x : StateId) : List σ :=
  (L.entriesFrom x).map Transition.symbol

variable [DecidableEq σ]

def contains (L : Ledger σ) (t : Transition σ) : Bool :=
  decide (t ∈ L.entries)

/-- The destination of the first entry with an origin and a symbol. -/
def lookup (L : Ledger σ) (x : StateId) (a : σ) : Option StateId :=
  (L.entries.find? fun t => decide (t.origin = x) && decide (t.symbol = a)).map
    Transition.destination

variable [Symbol σ]

/-- The objection to a transition that does not depend on the entries. -/
def objection? (L : Ledger σ) (t : Transition σ) : Option Error :=
  if L.locked then some (.frozenTable t.origin (Symbol.text t.symbol))
  else
    match L.owner with
    | none => none
    | some k =>
        if t.origin.automaton ≠ k then some (.foreignState t.origin k)
        else if t.destination.automaton ≠ k then some (.foreignState t.destination k)
        else none

/-- Enters a transition to which there is no objection. -/
def enter (L : Ledger σ) (t : Transition σ) : Ledger σ × Except Conflict Bool :=
  match L.lookup t.origin t.symbol with
  | none => ({ L with entries := L.entries ++ [t] }, .ok true)
  | some y =>
      if y = t.destination then (L, .ok false)
      else (L, .error ⟨t.origin, Symbol.text t.symbol, y, t.destination⟩)

/-- Enters transitions one after the other; the result is the number of new ones and the
conflicts. -/
def enterEach (L : Ledger σ) : List (Transition σ) → Ledger σ × Nat × List Conflict
  | [] => (L, 0, [])
  | t :: ts =>
      let (L', result) := L.enter t
      let (L'', added, conflicts) := L'.enterEach ts
      match result with
      | .ok true => (L'', added + 1, conflicts)
      | .ok false => (L'', added, conflicts)
      | .error c => (L'', added, c :: conflicts)

/-- Enters a transition unless there is an objection to it. -/
def insert (L : Ledger σ) (t : Transition σ) : Ledger σ × Except Error Bool :=
  match L.objection? t with
  | some e => (L, .error e)
  | none =>
      let (L', result) := L.enter t
      (L', result.mapError Error.conflict)

/-- Enters a batch unless there is an objection to a transition of it. -/
def insertAll (L : Ledger σ) (batch : List (Transition σ)) : Ledger σ × Except Error Nat :=
  match batch.findSome? L.objection? with
  | some e => (L, .error e)
  | none =>
      match L.enterEach batch with
      | (L', added, []) => (L', .ok added)
      | (L', _, conflicts) => (L', .error (.conflicts conflicts))

/-- The ledger after a change, and the verdict on the change. -/
def change (L : Ledger σ) : Change σ → Ledger σ × Verdict
  | .insert t =>
      let (L', result) := L.insert t
      (L', .inserted result)
  | .add x a y =>
      let (L', result) := L.insert ⟨x, a, y⟩
      (L', .inserted result)
  | .insertAll batch =>
      let (L', result) := L.insertAll batch
      (L', .insertedAll result)
  | .freeze => ({ L with locked := true }, .frozen)
  | .copy => (L, .copied L.entries.length L.locked L.owner)

/-- The ledger after a history, and the verdicts on its changes. -/
def run (L : Ledger σ) : List (Change σ) → Ledger σ × List Verdict
  | [] => (L, [])
  | c :: cs =>
      let (L', verdict) := L.change c
      let (L'', verdicts) := L'.run cs
      (L'', verdict :: verdicts)

end Ledger

end GotoAutomaton
