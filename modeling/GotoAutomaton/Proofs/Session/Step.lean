import GotoAutomaton.Graph.Basic
import GotoAutomaton.Proofs.State.Registry
import GotoAutomaton.Proofs.Table.Growth
import GotoAutomaton.Session.Run

/-!
# Steps of a session

An operation works on one kind of object and leaves the other kinds alone.  It makes one registry,
table or graph more, or puts another in the place of one, or only answers.

Main statements: what an operation can do to the registries and which identifiers it mints then
(`registryEffect_step`), what it can do to the tables (`tableEffect_step`) and to the graphs
(`graphEffect_step`).
-/

namespace GotoAutomaton

/-- What an array has when one of its elements has been replaced. -/
theorem getElem?_setIfInBounds_of_getElem?
    {α : Type}
    {xs : Array α}
    {i : Nat}
    {x : α}
    (hx : xs[i]? = some x)
    (y : α)
    (j : Nat) :
    (xs.setIfInBounds i y)[j]? = if i = j then some y else xs[j]? := by
  have hi : i < xs.size := (Array.getElem?_eq_some_iff.1 hx).1
  simp [Array.getElem?_setIfInBounds, hi]

/-- What an array has stays where it is when an element is put last. -/
theorem getElem?_push_of_getElem?
    {α : Type}
    {xs : Array α}
    {i : Nat}
    {x : α}
    (hx : xs[i]? = some x)
    (y : α) :
    (xs.push y)[i]? = some x := by
  have hi : i < xs.size := (Array.getElem?_eq_some_iff.1 hx).1
  rw [Array.getElem?_push, if_neg (by omega), hx]

/-- What holds of all elements of an array, and of one that is put last, holds of all then. -/
theorem forall_getElem?_push
    {α : Type}
    {P : α → Prop}
    {xs : Array α}
    (hxs : ∀ (i : Nat) (x : α), xs[i]? = some x → P x)
    {y : α}
    (hy : P y)
    (i : Nat)
    (x : α)
    (hx : (xs.push y)[i]? = some x) :
    P x := by
  rw [Array.getElem?_push] at hx
  split at hx
  · cases hx
    exact hy
  · exact hxs i x hx

/-- What holds of all elements of an array, and of one that replaces another, holds of all then. -/
theorem forall_getElem?_setIfInBounds
    {α : Type}
    {P : α → Prop}
    {xs : Array α}
    (hxs : ∀ (i : Nat) (x : α), xs[i]? = some x → P x)
    {j : Nat}
    {z : α}
    (hz : xs[j]? = some z)
    {y : α}
    (hy : P y)
    (i : Nat)
    (x : α)
    (hx : (xs.setIfInBounds j y)[i]? = some x) :
    P x := by
  rw [getElem?_setIfInBounds_of_getElem? hz] at hx
  split at hx
  · cases hx
    exact hy
  · exact hxs i x hx

section Operations

variable {σ : Type}

/-- The identifiers that an operation on registries mints, each with the number of the registry that
mints it, as its answer tells.  The states of a copy are minted by the copy. -/
def RegistryOp.mints (op : RegistryOp) (answer : Answer σ) : List (Nat × StateId) :=
  match op, answer with
  | .create, .registry i _ xs => xs.map (Prod.mk i)
  | .copy _, .registry i _ xs => xs.map (Prod.mk i)
  | .add i _, .stateAdded x _ => [(i, x)]
  | .addMany i _, .statesAdded xs _ => xs.map (Prod.mk i)
  | _, _ => []

/-- The identifiers that an operation mints; only registries mint any. -/
def Op.mints : Op σ → Answer σ → List (Nat × StateId)
  | .registry op, answer => op.mints answer
  | _, _ => []

/-- The transitions that an operation hands to a table to be stored. -/
def Op.handed : Op σ → List (Transition σ)
  | .table (.insert _ t) => [t]
  | .table (.insertAll _ batch) => batch
  | _ => []

/-- The number of the registry to whose automaton a table of this kind belongs, if to any. -/
def TableKind.home? : TableKind → Option Nat
  | .unowned => none
  | .owned i => some i
  | .configured i config => if config.checkOwnership then some i else none
  | .documented i document =>
      match Config.ofText document with
      | .ok c => if c.table.checkOwnership then some i else none
      | .error _ => none

/-- The operation that makes an addition to a numbered graph. -/
def Addition.op (i : Nat) : Addition σ → GraphOp σ
  | .state x => .addState i x
  | .transition t => .addTransition i t

end Operations

namespace Session

variable {σ : Type}

/-- The owner of a table of some kind, if it is made now. -/
def ownerOf (s : Session σ) (kind : TableKind) : Option Tag :=
  (kind.home?.bind fun i => s.registries[i]?).map Registry.tag

/-- What an operation can do to the registries and the next tag, and what it mints then. -/
inductive RegistryEffect (s : Session σ) : Tag → Array Registry → List (Nat × StateId) → Prop
  | none :
      RegistryEffect s s.nextTag s.registries []
  | created :
      RegistryEffect s s.nextTag.next (s.registries.push (.empty s.nextTag)) []
  /-- A copy mints all its states anew. -/
  | copied {i : Nat} {r : Registry} :
      s.registries[i]? = some r →
      RegistryEffect s s.nextTag.next (s.registries.push (r.retag s.nextTag))
        ((r.retag s.nextTag).ids.map (Prod.mk s.registries.size))
  | grown {i : Nat} {r r' : Registry} :
      s.registries[i]? = some r →
      r.GrowsTo r' →
      RegistryEffect s s.nextTag (s.registries.setIfInBounds i r')
        ((r'.ids.drop r.size).map (Prod.mk i))

/-- A registry keeps its place, where it may have grown. -/
theorem RegistryEffect.exists_getElem?
    {s : Session σ}
    {nextTag : Tag}
    {registries : Array Registry}
    {new : List (Nat × StateId)}
    (heffect : RegistryEffect s nextTag registries new)
    {i : Nat}
    {r : Registry}
    (hr : s.registries[i]? = some r) :
    ∃ r', registries[i]? = some r' ∧ r.GrowsTo r' := by
  cases heffect with
  | none =>
      exact ⟨r, hr, .refl⟩
  | created =>
      exact ⟨r, getElem?_push_of_getElem? hr _, .refl⟩
  | copied =>
      exact ⟨r, getElem?_push_of_getElem? hr _, .refl⟩
  | @grown j q q' hq hgrows =>
      rw [getElem?_setIfInBounds_of_getElem? hq]
      by_cases hji : j = i
      · subst hji
        rw [hr] at hq
        cases hq
        exact ⟨q', if_pos rfl, hgrows⟩
      · exact ⟨r, by rw [if_neg hji, hr], .refl⟩

/-- What an operation can do to the graphs. -/
inductive GraphEffect (s : Session σ) : Op σ → Array (Graph σ) → Prop
  | none {op : Op σ} :
      GraphEffect s op s.graphs
  | created :
      GraphEffect s (.graph .create) (s.graphs.push .empty)
  | drawn {i : Nat} {T : Table σ} :
      s.tables[i]? = some T →
      GraphEffect s (.graph (.ofTable i)) (s.graphs.push (.ofTable T))
  | changed {i : Nat} {g : Graph σ} {a : Addition σ} :
      s.graphs[i]? = some g →
      GraphEffect s (.graph (a.op i)) (s.graphs.setIfInBounds i (g.add a))

theorem withObject_of_getElem?
    {α : Type}
    {objects : Array α}
    {i : Nat}
    {x : α}
    (hx : objects[i]? = some x)
    (s : Session σ)
    (k : α → Session σ × Reply σ) :
    s.withObject objects i k = k x := by
  simp [withObject, hx]

theorem registryEffect_stepRegistry
    (s : Session σ)
    (op : RegistryOp) :
    RegistryEffect s (s.stepRegistry op).1.nextTag (s.stepRegistry op).1.registries
      (op.mints (s.stepRegistry op).2.answer) := by
  cases op with
  | create =>
      exact .created
  | copy i =>
      simp only [stepRegistry, withObject]
      split
      · exact .none
      · next r hr =>
          exact .copied hr
  | add i label =>
      simp only [stepRegistry, withObject]
      split
      · exact .none
      · next r hr =>
          have hlength : r.ids.length = r.size := by simp [Registry.ids, Registry.size]
          have hids : ((r.add label).ids.drop r.size).map (Prod.mk i) = [(i, r.nextId)] := by
            rw [Registry.ids_add, ← hlength, List.drop_left]
            rfl
          have heffect := RegistryEffect.grown hr (Registry.GrowsTo.refl.add label)
          rwa [hids] at heffect
  | addMany i count =>
      simp only [stepRegistry, withObject]
      split
      · exact .none
      · next r hr =>
          exact .grown hr (Registry.GrowsTo.refl.addMany count)
  | get | contains | check | info =>
      simp only [stepRegistry, withObject]
      split <;> exact .none

/-- A table that is made has no transitions; its owner is the one that its kind asks for. -/
theorem tables_makeTable
    (s : Session σ)
    (kind : TableKind) :
    (s.makeTable kind).1.tables = s.tables ∨
      (s.makeTable kind).1.tables = s.tables.push (.empty (s.ownerOf kind)) := by
  cases kind with
  | unowned =>
      exact Or.inr rfl
  | owned i =>
      simp only [makeTable, withObject]
      split
      · exact Or.inl rfl
      · next r hr =>
          simp [addTable, Table.ownedBy, ownerOf, TableKind.home?, hr]
  | configured i config =>
      simp only [makeTable, withObject]
      split
      · exact Or.inl rfl
      · next r hr =>
          cases hcheck : config.checkOwnership <;>
            simp [addTable, Table.withConfig, ownerOf, TableKind.home?, hr, hcheck]
  | documented i document =>
      simp only [makeTable, withObject]
      split
      · exact Or.inl rfl
      · next r hr =>
          cases hconfig : Config.ofText document with
          | error e =>
              exact Or.inl rfl
          | ok c =>
              cases hcheck : c.table.checkOwnership <;>
                simp [addTable, Table.withConfig, ownerOf, TableKind.home?, hr, hconfig, hcheck]

/-- A table of a registry's automaton is made if the registry is there. -/
theorem tables_makeTable_of_home?
    {s : Session σ}
    {kind : TableKind}
    {i : Nat}
    {r : Registry}
    (hhome : kind.home? = some i)
    (hr : s.registries[i]? = some r) :
    (s.makeTable kind).1.tables = s.tables.push (.empty (some r.tag)) := by
  cases kind with
  | unowned =>
      cases hhome
  | owned i =>
      cases hhome
      rw [makeTable, withObject_of_getElem? hr]
      rfl
  | configured i config =>
      cases hcheck : config.checkOwnership with
      | false =>
          simp [TableKind.home?, hcheck] at hhome
      | true =>
          obtain rfl : i = _ := by simpa [TableKind.home?, hcheck] using hhome
          rw [makeTable, withObject_of_getElem? hr]
          simp [addTable, Table.withConfig, hcheck]
  | documented i document =>
      cases hconfig : Config.ofText document with
      | error e =>
          simp [TableKind.home?, hconfig] at hhome
      | ok c =>
          cases hcheck : c.table.checkOwnership with
          | false =>
              simp [TableKind.home?, hconfig, hcheck] at hhome
          | true =>
              obtain rfl : i = _ := by simpa [TableKind.home?, hconfig, hcheck] using hhome
              rw [makeTable, withObject_of_getElem? hr]
              simp [addTable, Table.withConfig, hconfig, hcheck]

/-- Making a table leaves registries and graphs alone. -/
theorem frame_makeTable
    (s : Session σ)
    (kind : TableKind) :
    (s.makeTable kind).1 = { s with tables := (s.makeTable kind).1.tables } := by
  cases kind with
  | unowned =>
      rfl
  | owned | configured =>
      simp only [makeTable, withObject]
      split <;> rfl
  | documented i document =>
      simp only [makeTable, withObject]
      split
      · rfl
      · cases Config.ofText document <;> rfl

theorem frame_stepRegistry
    (s : Session σ)
    (op : RegistryOp) :
    (s.stepRegistry op).1 =
      { s with
        nextTag := (s.stepRegistry op).1.nextTag
        registries := (s.stepRegistry op).1.registries } := by
  cases op with
  | create =>
      rfl
  | copy | add | addMany | get | contains | check | info =>
      simp only [stepRegistry, withObject]
      split <;> rfl

variable [DecidableEq σ] [Symbol σ]

/-- What an operation can do to the tables. -/
inductive TableEffect (s : Session σ) : Op σ → Array (Table σ) → Prop
  | none {op : Op σ} :
      TableEffect s op s.tables
  | created {kind : TableKind} :
      TableEffect s (.table (.create kind)) (s.tables.push (.empty (s.ownerOf kind)))
  | copied {i : Nat} {T : Table σ} :
      s.tables[i]? = some T →
      TableEffect s (.table (.copy i)) (s.tables.push T)
  /-- A table changes by what is handed to it, or it is frozen. -/
  | changed {op : Op σ} {i : Nat} {T : Table σ} {c : Change σ} :
      s.tables[i]? = some T →
      c.transitions = op.handed →
      TableEffect s op (s.tables.setIfInBounds i (T.change c).1)

/-- What holds of new tables, and is kept when a table changes by what is handed to it, holds of all
tables after an operation if it held of all before. -/
theorem TableEffect.forall_getElem?
    {s : Session σ}
    {op : Op σ}
    {tables : Array (Table σ)}
    (heffect : TableEffect s op tables)
    {P : Table σ → Prop}
    (hempty : ∀ owner, P (.empty owner))
    (hchange : ∀ T c, c.transitions = op.handed → P T → P (T.change c).1)
    (hold : ∀ (j : Nat) (T : Table σ), s.tables[j]? = some T → P T)
    (j : Nat)
    (T : Table σ)
    (hT : tables[j]? = some T) :
    P T := by
  cases heffect with
  | none =>
      exact hold j T hT
  | created =>
      exact forall_getElem?_push hold (hempty _) j T hT
  | copied hU =>
      exact forall_getElem?_push hold (hold _ _ hU) j T hT
  | changed hU hc =>
      exact forall_getElem?_setIfInBounds hold hU (hchange _ _ hc (hold _ _ hU)) j T hT

/-- A table keeps its place and its owner. -/
theorem TableEffect.exists_getElem?
    {s : Session σ}
    {op : Op σ}
    {tables : Array (Table σ)}
    (heffect : TableEffect s op tables)
    {j : Nat}
    {T : Table σ}
    (hT : s.tables[j]? = some T) :
    ∃ T', tables[j]? = some T' ∧ T'.owner = T.owner := by
  cases heffect with
  | none =>
      exact ⟨T, hT, rfl⟩
  | created =>
      exact ⟨T, getElem?_push_of_getElem? hT _, rfl⟩
  | copied =>
      exact ⟨T, getElem?_push_of_getElem? hT _, rfl⟩
  | @changed _ i U c hU =>
      rw [getElem?_setIfInBounds_of_getElem? hU]
      by_cases hij : i = j
      · subst hij
        rw [hT] at hU
        cases hU
        exact ⟨(T.change c).1, if_pos rfl, T.owner_change c⟩
      · exact ⟨T, by rw [if_neg hij, hT], rfl⟩

theorem tableEffect_stepTable
    (s : Session σ)
    (op : TableOp σ) :
    TableEffect s (.table op) (s.stepTable op).1.tables := by
  cases op with
  | create kind =>
      rw [stepTable]
      rcases s.tables_makeTable kind with h | h <;> rw [h]
      · exact .none
      · exact .created
  | copy i =>
      simp only [stepTable, withObject]
      split
      · exact .none
      · next T hT =>
          exact .copied hT
  | insert i t =>
      simp only [stepTable, withObject]
      split
      · exact .none
      · next T hT =>
          exact .changed (c := .insert t) hT rfl
  | insertAll i batch =>
      simp only [stepTable, withObject]
      split
      · exact .none
      · next T hT =>
          exact .changed (c := .insertAll batch) hT rfl
  | freeze | share =>
      simp only [stepTable, withObject]
      split
      · exact .none
      · next T hT =>
          exact .changed (c := .freeze) hT rfl
  | lookup | transitionsFrom | symbolsFrom | contains | origins | info | text =>
      simp only [stepTable, withObject]
      split <;> exact .none

theorem frame_stepTable
    (s : Session σ)
    (op : TableOp σ) :
    (s.stepTable op).1 = { s with tables := (s.stepTable op).1.tables } := by
  cases op with
  | create kind =>
      exact s.frame_makeTable kind
  | copy | insert | insertAll | lookup | transitionsFrom | symbolsFrom | contains | origins
  | freeze | share | info | text =>
      simp only [stepTable, withObject]
      split <;> rfl

omit [DecidableEq σ] in
theorem graphEffect_stepGraph
    (s : Session σ)
    (op : GraphOp σ) :
    GraphEffect s (.graph op) (s.stepGraph op).1.graphs := by
  cases op with
  | create =>
      exact .created
  | ofTable i =>
      simp only [stepGraph, withObject]
      split
      · exact .none
      · next T hT =>
          exact .drawn hT
  | addState i x =>
      simp only [stepGraph, withObject]
      split
      · exact .none
      · next g hg =>
          exact .changed (a := .state x) hg
  | addTransition i t =>
      simp only [stepGraph, withObject]
      split
      · exact .none
      · next g hg =>
          exact .changed (a := .transition t) hg
  | contains | reachableFrom | hasCycles | startStates | terminalStates | outgoing | incoming
  | stats =>
      simp only [stepGraph, withObject]
      split <;> exact .none
  | draw | write | classify =>
      simp only [stepGraph, withObject]
      split
      · exact .none
      · split <;> exact .none

omit [DecidableEq σ] in
theorem frame_stepGraph
    (s : Session σ)
    (op : GraphOp σ) :
    (s.stepGraph op).1 = { s with graphs := (s.stepGraph op).1.graphs } := by
  cases op with
  | create =>
      rfl
  | ofTable | addState | addTransition | contains | reachableFrom | hasCycles | startStates
  | terminalStates | outgoing | incoming | stats =>
      simp only [stepGraph, withObject]
      split <;> rfl
  | draw | write | classify =>
      simp only [stepGraph, withObject]
      split
      · rfl
      · split <;> rfl

/-- Validation changes nothing. -/
theorem frame_validate
    (s : Session σ)
    (i j : Nat)
    (x : StateId) :
    (s.step (.validate i j x)).1 = s := by
  simp only [step, withObject]
  split
  · rfl
  · split <;> rfl

theorem registryEffect_step
    (s : Session σ)
    (op : Op σ) :
    RegistryEffect s (s.step op).1.nextTag (s.step op).1.registries
      (op.mints (s.step op).2.answer) := by
  cases op with
  | registry op =>
      exact s.registryEffect_stepRegistry op
  | table op =>
      rw [step, s.frame_stepTable op]
      exact .none
  | graph op =>
      rw [step, s.frame_stepGraph op]
      exact .none
  | validate i j x =>
      rw [s.frame_validate i j x]
      exact .none

theorem tableEffect_step
    (s : Session σ)
    (op : Op σ) :
    TableEffect s op (s.step op).1.tables := by
  cases op with
  | registry op =>
      rw [step, s.frame_stepRegistry op]
      exact .none
  | table op =>
      exact s.tableEffect_stepTable op
  | graph op =>
      rw [step, s.frame_stepGraph op]
      exact .none
  | validate i j x =>
      rw [s.frame_validate i j x]
      exact .none

theorem graphEffect_step
    (s : Session σ)
    (op : Op σ) :
    GraphEffect s op (s.step op).1.graphs := by
  cases op with
  | registry op =>
      rw [step, s.frame_stepRegistry op]
      exact .none
  | table op =>
      rw [step, s.frame_stepTable op]
      exact .none
  | graph op =>
      exact s.graphEffect_stepGraph op
  | validate i j x =>
      rw [s.frame_validate i j x]
      exact .none

/-- The session after operations. -/
def after (s : Session σ) (ops : List (Op σ)) : Session σ :=
  (s.run ops).1

@[simp] theorem after_nil (s : Session σ) : s.after [] = s := by
  rfl

@[simp] theorem after_cons
    (s : Session σ)
    (op : Op σ)
    (ops : List (Op σ)) :
    s.after (op :: ops) = (s.step op).1.after ops := by
  rfl

theorem after_append
    (s : Session σ)
    (before rest : List (Op σ)) :
    s.after (before ++ rest) = (s.after before).after rest := by
  induction before generalizing s with
  | nil =>
      rfl
  | cons op before ih =>
      simp [ih]

theorem after_concat
    (s : Session σ)
    (ops : List (Op σ))
    (op : Op σ) :
    s.after (ops ++ [op]) = ((s.after ops).step op).1 := by
  rw [after_append]
  rfl

end Session
end GotoAutomaton
