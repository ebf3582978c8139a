import GotoAutomaton.Proofs.Session.Step
import GotoAutomaton.Proofs.Shift.Graph

/-!
# Shifted sessions

A session that starts under a later tag goes through the same states, all tags shifted, and gives
the same replies.  The identifiers that it is given must not run over the last tag, because sorted
lists would change their order; the tags that are minted may, because they are only compared.

Main statements: what one operation comes to in a shifted session (`Fits.step_shift`), and that the
replies of a whole session are shifted, with the same texts (`replies_shift`).
-/

namespace GotoAutomaton

section Texts

variable {σ : Type} (k : UInt32)

@[simp] theorem Error.printsTag_shift (e : Error) : (e.shift k).printsTag = e.printsTag := by
  cases e <;> rfl

@[simp] theorem Conflict.text_shift (c : Conflict) : (c.shift k).text = c.text := by
  rfl

/-- Without a tag in it a message stays the same. -/
theorem Error.message_shift
    {e : Error}
    (he : e.printsTag = false) :
    (e.shift k).message = e.message := by
  cases e with
  | foreignState =>
      cases he
  | conflicts cs =>
      unfold Error.shift Error.message
      dsimp only
      rw [List.length_map, List.map_map]
      rfl
  | incomplete foreign unreachable =>
      unfold Error.shift Error.message
      dsimp only
      rw [List.length_map, List.length_map]
  | conflict | frozenTable | io | config | custom | other =>
      rfl

@[simp] theorem Event.printsTag_shift (e : Event σ) : (e.shift k).printsTag = e.printsTag := by
  cases e <;> rfl

theorem Event.line_shift
    [Symbol σ]
    {e : Event σ}
    (he : e.printsTag = false) :
    (e.shift k).line = e.line := by
  cases e with
  | incomplete =>
      cases he
  | inserting | alreadyPresent | refusing | rejecting | batchRefusals | frozen | complete =>
      rfl

theorem Answer.failure?_shift (a : Answer σ) :
    (a.shift k).failure? = a.failure?.map (Error.shift k) := by
  cases a with
  | report p =>
      obtain ⟨foreign, unreachable⟩ := p
      cases foreign <;> cases unreachable <;> rfl
  | _ =>
      rfl

theorem Answer.texts_shift (a : Answer σ) : (a.shift k).texts = a.texts := by
  cases a with
  | state found =>
      cases found <;> simp [Answer.shift, Answer.texts]
  | registryInfo t states =>
      simp [Answer.shift, Answer.texts, Function.comp_def]
  | _ =>
      rfl

/-- Texts of chosen elements do not notice a renaming that changes neither the choice nor the texts
of what is chosen. -/
theorem map_filter_map_of_unnoticed
    {α : Type}
    {f : α → α}
    {chosen : α → Bool}
    {text : α → String}
    (hchosen : ∀ x, chosen (f x) = chosen x)
    (htext : ∀ x, chosen x = true → text (f x) = text x)
    (xs : List α) :
    ((xs.map f).filter chosen).map text = (xs.filter chosen).map text := by
  simp only [List.filter_map, Function.comp_def, hchosen, List.map_map]
  exact List.map_congr_left fun x hx => htext x (List.of_mem_filter hx)

/-- A shifted reply comes with the same texts. -/
theorem Reply.plainTexts_shift
    [Symbol σ]
    (reply : Reply σ) :
    (reply.shift k).plainTexts = reply.plainTexts := by
  have hmessages (es : List Error) :
      ((es.map (Error.shift k)).filter fun e => !e.printsTag).map Error.message =
        (es.filter fun e => !e.printsTag).map Error.message := by
    refine map_filter_map_of_unnoticed ?_ ?_ es
    · intro e
      rw [Error.printsTag_shift]
    · intro e he
      exact e.message_shift k (by simpa using he)
  have hlines (es : List (Event σ)) :
      ((es.map (Event.shift k)).filter fun e => !e.printsTag).map Event.line =
        (es.filter fun e => !e.printsTag).map Event.line := by
    refine map_filter_map_of_unnoticed ?_ ?_ es
    · intro e
      rw [Event.printsTag_shift]
    · intro e he
      exact e.line_shift k (by simpa using he)
  have hfailure : (reply.answer.shift k).failure?.toList =
      reply.answer.failure?.toList.map (Error.shift k) := by
    rw [Answer.failure?_shift]
    cases reply.answer.failure? <;> rfl
  rw [Reply.plainTexts, Reply.shift, Answer.texts_shift, hfailure, hmessages, hlines,
    Reply.plainTexts]

end Texts

namespace Session

variable {σ : Type} (k : UInt32)

def shift (s : Session σ) : Session σ where
  nextTag := s.nextTag.shift k
  registries := s.registries.map (Registry.shift k)
  tables := s.tables.map (Table.shift k)
  graphs := s.graphs.map (Graph.shift k)

/-- Every identifier that tables and graphs hold can be shifted. -/
structure Fits (s : Session σ) : Prop where
  tables : ∀ (i : Nat) (T : Table σ), s.tables[i]? = some T → T.Fits k
  graphs : ∀ (i : Nat) (g : Graph σ), s.graphs[i]? = some g → g.Fits k

/-- A session after an operation, shifted together with the reply. -/
def shiftReplied (replied : Session σ × Reply σ) : Session σ × Reply σ :=
  (replied.1.shift k, replied.2.shift k)

section Parts

variable (s : Session σ)

theorem answer_shift
    {a a' : Answer σ}
    (ha : a' = a.shift k) :
    (s.shift k).answer a' = shiftReplied k (s.answer a) := by
  rw [ha]
  rfl

theorem withObject_shift
    {α : Type}
    {f : α → α}
    {objects : Array α}
    {i : Nat}
    {c c' : α → Session σ × Reply σ}
    (hc : ∀ x, objects[i]? = some x → c' (f x) = shiftReplied k (c x)) :
    (s.shift k).withObject (objects.map f) i c' = shiftReplied k (s.withObject objects i c) := by
  rw [withObject, withObject, Array.getElem?_map]
  cases hx : objects[i]? with
  | none =>
      rfl
  | some x =>
      exact hc x hx

theorem addRegistry_shift (r : Registry) :
    (s.shift k).addRegistry (r.shift k) = shiftReplied k (s.addRegistry r) := by
  simp [addRegistry, shiftReplied, shift, Tag.next_shift, Reply.shift, Answer.shift]

theorem addTable_shift (T : Table σ) :
    (s.shift k).addTable (T.shift k) = shiftReplied k (s.addTable T) := by
  simp [addTable, shiftReplied, shift, Reply.shift, Answer.shift]

theorem addGraph_shift (g : Graph σ) :
    (s.shift k).addGraph (g.shift k) = shiftReplied k (s.addGraph g) := by
  simp [addGraph, shiftReplied, shift, Reply.shift, Answer.shift]

theorem setRegistry_shift (i : Nat) (r : Registry) :
    (s.shift k).setRegistry i (r.shift k) = (s.setRegistry i r).shift k := by
  simp [setRegistry, shift]

theorem setTable_shift (i : Nat) (T : Table σ) :
    (s.shift k).setTable i (T.shift k) = (s.setTable i T).shift k := by
  simp [setTable, shift]

theorem setGraph_shift (i : Nat) (g : Graph σ) :
    (s.shift k).setGraph i (g.shift k) = (s.setGraph i g).shift k := by
  simp [setGraph, shift]

end Parts

/-- The registries of a shifted session do the same. -/
theorem stepRegistry_shift
    (s : Session σ)
    (op : RegistryOp) :
    (s.shift k).stepRegistry (op.shift k) = shiftReplied k (s.stepRegistry op) := by
  cases op with
  | create =>
      have hempty := s.addRegistry_shift k (.empty s.nextTag)
      rw [← Registry.empty_shift] at hempty
      exact hempty
  | copy i =>
      refine s.withObject_shift k fun r _ => ?_
      rw [shift, Registry.retag_shift]
      exact s.addRegistry_shift k _
  | add i label =>
      refine s.withObject_shift k fun r _ => ?_
      simp only [Registry.add_shift, Registry.nextId_shift, Registry.size_shift,
        setRegistry_shift]
      rfl
  | addMany i count =>
      refine s.withObject_shift k fun r _ => ?_
      simp only [Registry.addMany_shift, Registry.ids_shift, Registry.size_shift,
        setRegistry_shift, ← List.map_drop]
      rfl
  | get i x =>
      refine s.withObject_shift k fun r _ => ?_
      rw [Registry.get?_shift]
      rfl
  | contains i x =>
      refine s.withObject_shift k fun r _ => ?_
      rw [Registry.contains_shift]
      rfl
  | check i x =>
      refine s.withObject_shift k fun r _ => ?_
      rw [Registry.check_shift]
      cases r.check x <;> rfl
  | info i =>
      refine s.withObject_shift k fun r _ => ?_
      rw [Registry.toList_states_shift]
      rfl

/-- A failure of reading a configuration has no tag in it. -/
theorem error_shift_of_ofText
    {document : String}
    {e : Error}
    (he : Config.ofText document = .error e) :
    e.shift k = e := by
  unfold Config.ofText at he
  split at he
  · cases he
    rfl
  · split at he <;> cases he
    rfl

/-- A failure of writing has no tag in it. -/
theorem error_shift_of_write
    {d : Dot.Drawing}
    {room : Nat}
    {e : Error}
    (he : (d.write room).result = .error e) :
    e.shift k = e := by
  rw [Dot.Drawing.write, Sink.result_write] at he
  split at he <;> cases he
  rfl

theorem makeTable_shift
    (s : Session σ)
    (kind : TableKind) :
    (s.shift k).makeTable kind = shiftReplied k (s.makeTable kind) := by
  cases kind with
  | unowned =>
      have hempty := s.addTable_shift k .unowned
      rw [Table.unowned, ← Table.empty_shift] at hempty
      exact hempty
  | owned i =>
      refine s.withObject_shift k fun r _ => ?_
      rw [Table.ownedBy_shift, addTable_shift]
  | configured i config =>
      refine s.withObject_shift k fun r _ => ?_
      rw [Table.withConfig_shift, addTable_shift]
  | documented i document =>
      refine s.withObject_shift k fun r _ => ?_
      cases hconfig : Config.ofText document with
      | ok c =>
          simp only [Table.withConfig_shift, addTable_shift]
      | error e =>
          refine s.answer_shift k ?_
          rw [Answer.shift, error_shift_of_ofText k hconfig]

theorem settle_shift
    {α : Type}
    (s : Session σ)
    (i : Nat)
    (o : Outcome σ α)
    {answer : α → Nat → Answer σ}
    (hanswer : ∀ x n, (answer x n).shift k = answer x n) :
    (s.shift k).settle i (o.shift k) answer = shiftReplied k (s.settle i o answer) := by
  obtain ⟨T, result, events⟩ := o
  cases result with
  | ok x =>
      simp [settle, Outcome.shift, Except.mapError, shiftReplied, setTable_shift, Reply.shift,
        hanswer]
  | error e =>
      simp [settle, Outcome.shift, Except.mapError, shiftReplied, setTable_shift, Reply.shift,
        Answer.shift]

section Operations

variable [DecidableEq σ] [Symbol σ]

/-- The tables of a shifted session do the same. -/
theorem stepTable_shift
    (s : Session σ)
    (op : TableOp σ) :
    (s.shift k).stepTable (op.shift k) = shiftReplied k (s.stepTable op) := by
  cases op with
  | create kind =>
      exact s.makeTable_shift k kind
  | copy i =>
      refine s.withObject_shift k fun T _ => ?_
      exact s.addTable_shift k T
  | insert i t =>
      refine s.withObject_shift k fun T _ => ?_
      rw [Table.insert_shift]
      exact s.settle_shift k i _ fun _ _ => rfl
  | insertAll i batch =>
      refine s.withObject_shift k fun T _ => ?_
      rw [Table.insertAll_shift]
      exact s.settle_shift k i _ fun _ _ => rfl
  | lookup i x a =>
      refine s.withObject_shift k fun T _ => ?_
      rw [Table.lookup_shift]
      rfl
  | transitionsFrom i x =>
      refine s.withObject_shift k fun T _ => ?_
      rw [Table.transitionsFrom_shift]
      rfl
  | symbolsFrom i x =>
      refine s.withObject_shift k fun T _ => ?_
      rw [Table.symbolsFrom_shift]
      rfl
  | contains i t =>
      refine s.withObject_shift k fun T _ => ?_
      rw [Table.contains_shift]
      rfl
  | origins i =>
      refine s.withObject_shift k fun T _ => ?_
      rw [Table.origins_shift]
      rfl
  | freeze i =>
      refine s.withObject_shift k fun T _ => ?_
      simp only [Table.freeze_shift, setTable_shift, Table.size_shift]
      rfl
  | share i probes =>
      refine s.withObject_shift k fun T _ => ?_
      simp only [Table.freeze_shift, setTable_shift, List.map_map, Function.comp_def,
        Table.lookup_shift]
      simp [shiftReplied, Reply.shift, Answer.shift, Function.comp_def]
  | info i =>
      refine s.withObject_shift k fun T _ => ?_
      rw [Table.toList_shift]
      rfl
  | text i =>
      refine s.withObject_shift k fun T _ => ?_
      rw [Table.text_shift]
      rfl

omit [DecidableEq σ] in
/-- The graphs of a shifted session do the same, as long as their states fit. -/
theorem Fits.stepGraph_shift
    {s : Session σ}
    (hs : s.Fits k)
    (op : GraphOp σ) :
    (s.shift k).stepGraph (op.shift k) = shiftReplied k (s.stepGraph op) := by
  cases op with
  | create =>
      have hempty := s.addGraph_shift k .empty
      rw [← Graph.empty_shift] at hempty
      exact hempty
  | ofTable i =>
      refine s.withObject_shift k fun T _ => ?_
      rw [Graph.ofTable_shift, addGraph_shift]
  | addState i x =>
      refine s.withObject_shift k fun g _ => ?_
      simp only [Graph.locate_shift, setGraph_shift, Graph.size_nodes_shift]
      rfl
  | addTransition i t =>
      refine s.withObject_shift k fun g _ => ?_
      simp only [Graph.addTransition_shift, setGraph_shift, Graph.size_nodes_shift,
        Graph.size_edges_shift]
      rfl
  | contains i x =>
      refine s.withObject_shift k fun g _ => ?_
      rw [Graph.contains_shift]
      rfl
  | reachableFrom i x =>
      refine s.withObject_shift k fun g _ => ?_
      rw [Graph.reachableFrom_shift]
      rfl
  | hasCycles i =>
      refine s.withObject_shift k fun g _ => ?_
      rw [Graph.hasCycles_shift]
      rfl
  | startStates i =>
      refine s.withObject_shift k fun g hg => ?_
      rw [(hs.graphs i g hg).startStates_shift]
      rfl
  | terminalStates i =>
      refine s.withObject_shift k fun g hg => ?_
      rw [(hs.graphs i g hg).terminalStates_shift]
      rfl
  | outgoing i x =>
      refine s.withObject_shift k fun g _ => ?_
      rw [Graph.outgoing_shift]
      rfl
  | incoming i x =>
      refine s.withObject_shift k fun g _ => ?_
      rw [Graph.incoming_shift]
      rfl
  | stats i =>
      refine s.withObject_shift k fun g hg => ?_
      rw [(hs.graphs i g hg).stats_shift]
      rfl
  | draw i j =>
      refine s.withObject_shift k fun g hg => ?_
      refine s.withObject_shift k fun r _ => ?_
      rw [(hs.graphs i g hg).drawing_shift]
      rfl
  | write i j room =>
      refine s.withObject_shift k fun g hg => ?_
      refine s.withObject_shift k fun r _ => ?_
      rw [(hs.graphs i g hg).drawing_shift]
      refine s.answer_shift k ?_
      cases hresult : ((g.drawing r).write room).result with
      | ok _ =>
          rfl
      | error e =>
          rw [Answer.shift, Option.map_some, error_shift_of_write k hresult]
  | classify i j =>
      refine s.withObject_shift k fun g _ => ?_
      refine s.withObject_shift k fun r _ => ?_
      rw [Graph.classify_shift]
      rfl

/-- An operation comes to the same in a shifted session, as long as what is sorted fits. -/
theorem Fits.step_shift
    {s : Session σ}
    (hs : s.Fits k)
    {op : Op σ}
    (hop : ∀ x ∈ op.given, x.Fits k) :
    (s.shift k).step (op.shift k) = shiftReplied k (s.step op) := by
  cases op with
  | registry op =>
      exact s.stepRegistry_shift k op
  | table op =>
      exact s.stepTable_shift k op
  | graph op =>
      exact hs.stepGraph_shift k op
  | validate i j x =>
      refine s.withObject_shift k fun T hT => ?_
      refine s.withObject_shift k fun r _ => ?_
      have hx : x.Fits k := hop x (List.mem_singleton.2 rfl)
      simp only [(hs.tables i T hT).validate_shift r hx, Table.validationEvent_shift]
      rfl

omit [DecidableEq σ] [Symbol σ] in
theorem fits_start (tag : Tag) : (start tag : Session σ).Fits k := by
  refine ⟨?_, ?_⟩
  · intro i T hT
    simp [start] at hT
  · intro i g hg
    simp [start] at hg

variable {k}

omit [DecidableEq σ] [Symbol σ] in
/-- What is handed to a table has been given to the operation. -/
theorem mem_given_of_mem_handed
    {op : Op σ}
    {t : Transition σ}
    (ht : t ∈ op.handed)
    {x : StateId}
    (hx : x ∈ t.endpoints) :
    x ∈ op.given := by
  cases op with
  | table op =>
      cases op with
      | insert i u =>
          rw [List.mem_singleton.1 ht] at hx
          exact hx
      | insertAll i batch =>
          exact List.mem_flatMap.2 ⟨t, ht, hx⟩
      | _ =>
          cases ht
  | _ =>
      cases ht

omit [DecidableEq σ] [Symbol σ] in
/-- An addition brings the identifiers given to it into a graph, and no others. -/
theorem fits_add
    {g : Graph σ}
    (hg : g.Fits k)
    {a : Addition σ}
    {i : Nat}
    (ha : ∀ x ∈ (a.op i).given, x.Fits k) :
    (g.add a).Fits k := by
  cases a with
  | state x =>
      exact hg.locate (ha x (List.mem_singleton.2 rfl))
  | transition t =>
      exact hg.addTransition ha

theorem Fits.step
    {s : Session σ}
    (hs : s.Fits k)
    {op : Op σ}
    (hop : ∀ x ∈ op.given, x.Fits k) :
    (s.step op).1.Fits k := by
  refine ⟨?_, ?_⟩
  · refine (s.tableEffect_step op).forall_getElem? (Table.fits_empty k) ?_ hs.tables
    intro T c hc hT
    refine hT.change ?_
    intro t ht x hx
    rw [hc] at ht
    exact hop x (mem_given_of_mem_handed ht hx)
  · have heffect := s.graphEffect_step op
    generalize (s.step op).1.graphs = graphs at heffect
    cases heffect with
    | none =>
        exact hs.graphs
    | created =>
        exact forall_getElem?_push hs.graphs Graph.fits_empty
    | drawn hT =>
        exact forall_getElem?_push hs.graphs (Graph.fits_ofTable (hs.tables _ _ hT))
    | changed hg =>
        exact forall_getElem?_setIfInBounds hs.graphs hg (fits_add (hs.graphs _ _ hg) hop)

theorem Fits.run_shift
    {s : Session σ}
    (hs : s.Fits k)
    {ops : List (Op σ)}
    (hops : ∀ op ∈ ops, ∀ x ∈ op.given, x.Fits k) :
    (s.shift k).run (ops.map (Op.shift k)) =
      ((s.run ops).1.shift k, (s.run ops).2.map (Reply.shift k)) := by
  induction ops generalizing s with
  | nil =>
      rfl
  | cons op ops ih =>
      obtain ⟨hop, hrest⟩ := List.forall_mem_cons.1 hops
      rw [List.map_cons, run, hs.step_shift k hop, run]
      simp only [shiftReplied, ih (hs.step hop) hrest, List.map_cons]

/-- A session depends on tags only up to a shift.  Under a tag that is later by some number, and
with this number added to the tag of every identifier that it is given, it replies to every
operation as it does under the first tag, with the number added to every tag in the reply; the
texts that print no tag are the same.  No given identifier must run over the last tag; tags that are
minted may. -/
theorem replies_shift
    (k : UInt32)
    (ops : List (Op σ))
    (hops : ∀ op ∈ ops, ∀ x ∈ op.given, x.Fits k) :
    let replies := ((start .first : Session σ).run ops).2
    let shifted := ((start ⟨k⟩ : Session σ).run (ops.map (Op.shift k))).2
    shifted = replies.map (Reply.shift k) ∧
      shifted.map Reply.plainTexts = replies.map Reply.plainTexts := by
  intro replies shifted
  have hstart : (start .first : Session σ).shift k = start ⟨k⟩ := by
    simp [start, shift, Tag.first, Tag.shift]
  have hrun := (fits_start k .first).run_shift hops
  have hreplies : shifted = replies.map (Reply.shift k) := by
    rw [hstart] at hrun
    exact congrArg Prod.snd hrun
  refine ⟨hreplies, ?_⟩
  rw [hreplies, List.map_map]
  exact List.map_congr_left fun reply _ => reply.plainTexts_shift k

/-- A registry and its copy, a table that belongs to the first and refuses a state of the copy, and
a table without owner that is given a state which no registry has minted. -/
theorem replies_shift_copy :
    let q : StateId := ⟨.first, 0⟩
    let y : StateId := ⟨Tag.first.next, 0⟩
    let z : StateId := ⟨⟨9⟩, 4⟩
    let ops : List (Op Char) :=
      [.registry .create, .registry (.add 0 none), .registry (.copy 0),
        .table (.create (.owned 0)), .table (.insert 0 ⟨q, 'a', y⟩),
        .table (.create .unowned), .table (.insertAll 1 [⟨q, 'a', z⟩, ⟨q, 'a', y⟩]),
        .validate 1 0 y]
    let replies := ((start .first : Session Char).run ops).2
    let shifted := ((start ⟨5⟩ : Session Char).run (ops.map (Op.shift 5))).2
    (∀ op ∈ ops, ∀ x ∈ op.given, x.Fits 5) ∧
      shifted = replies.map (Reply.shift 5) ∧
      shifted.map Reply.plainTexts = replies.map Reply.plainTexts ∧
      (shifted[4]?.map Reply.answer) =
        some (.insertionFailed (.foreignState ⟨⟨6⟩, 0⟩ ⟨5⟩) 0) ∧
      (shifted[6]?.map Reply.answer) =
        some (.insertionFailed (.conflicts [⟨⟨⟨5⟩, 0⟩, "a", ⟨⟨14⟩, 4⟩, ⟨⟨6⟩, 0⟩⟩]) 1) := by
  intro q y z ops replies shifted
  have hops : ∀ op ∈ ops, ∀ x ∈ op.given, x.Fits 5 := by decide
  obtain ⟨hreplies, htexts⟩ := replies_shift 5 ops hops
  refine ⟨hops, hreplies, htexts, ?_, ?_⟩ <;> rfl

end Operations

end Session
end GotoAutomaton
