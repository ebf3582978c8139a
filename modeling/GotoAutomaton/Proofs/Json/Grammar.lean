import GotoAutomaton.Json.Codec
import GotoAutomaton.Proofs.Json.Token

/-!
# What decoders accept

A decoder looks for the values under the names of a record, or takes the items of an array, and
then decodes each part.  It finds one value under a name exactly if the name stands once, and it
decodes a part exactly if the part has the form of what is decoded.

Main statement: each decoder gives a thing exactly for the values that have its form
(`ofJson?_iff_hasForm`).
-/

namespace GotoAutomaton
namespace Json

theorem valuesOf_eq_nil_iff
    {fields : List (String × Value)}
    {name : String} :
    valuesOf name fields = [] ↔ Absent fields name := by
  simp only [valuesOf, List.map_eq_nil_iff, List.filter_eq_nil_iff, decide_eq_true_eq]
  rfl

/-- One value is found under a name that stands once. -/
theorem valuesOf_eq_singleton_iff
    {fields : List (String × Value)}
    {name : String}
    {v : Value} :
    valuesOf name fields = [v] ↔ Once fields name v := by
  have hback (back : List (String × Value)) :
      List.filter (fun field => decide (field.1 = name)) back = [] ↔ Absent back name := by
    rw [← valuesOf_eq_nil_iff, valuesOf, List.map_eq_nil_iff]
  rw [valuesOf, List.map_eq_singleton_iff]
  constructor
  · rintro ⟨⟨name', v'⟩, hfilter, rfl⟩
    obtain ⟨front, back, rfl, hfront, hname, hrest⟩ := List.filter_eq_cons_iff.1 hfilter
    rw [decide_eq_true_eq] at hname
    subst hname
    refine ⟨front, back, rfl, ?_, (hback back).1 hrest⟩
    intro field hfield
    simpa using hfront field hfield
  · rintro ⟨front, back, rfl, hfront, hrest⟩
    refine ⟨(name, v), ?_, rfl⟩
    rw [List.filter_eq_cons_iff]
    refine ⟨front, back, rfl, ?_, decide_eq_true rfl, (hback back).2 hrest⟩
    intro field hfield
    simpa using hfront field hfield

/-- The parts of an object are found under their names. -/
theorem record_obj_iff
    {parts fields : List (String × Value)} :
    Record parts (.obj fields) ↔ ∀ part ∈ parts, valuesOf part.1 fields = [part.2] := by
  simp only [valuesOf_eq_singleton_iff]
  constructor
  · intro h
    cases h with
    | object honce =>
        exact honce
  · exact .object

end Json

open Json

theorem Tag.ofJson?_eq_some_iff
    {v : Value}
    {k : Tag} :
    Tag.ofJson? v = some k ↔ v = .nat k.number.toNat := by
  constructor
  · intro h
    unfold Tag.ofJson? at h
    split at h
    · next n =>
        split at h
        · next hn =>
            cases h
            rw [UInt32.toNat_ofNat_of_lt' hn]
        · cases h
    · cases h
  · rintro rfl
    rw [Tag.ofJson?, if_pos k.number.toNat_lt_size, UInt32.ofNat_toNat]

theorem StateId.indexOfJson?_eq_some_iff
    {v : Value}
    {i : Nat} :
    StateId.indexOfJson? v = some i ↔ v = .nat i ∧ i < UInt64.size := by
  cases v <;> grind [StateId.indexOfJson?]

theorem StateId.ofParts?_eq_some_iff
    {automaton index : Value}
    {x : StateId} :
    StateId.ofParts? automaton index = some x ↔
      automaton = .nat x.automaton.number.toNat ∧ index = .nat x.index ∧
        x.index < UInt64.size := by
  obtain ⟨k, i⟩ := x
  simp [StateId.ofParts?, Option.bind_eq_some_iff, Tag.ofJson?_eq_some_iff,
    StateId.indexOfJson?_eq_some_iff]

/-- An identifier is decoded from the parts of a record. -/
theorem StateId.ofJson?_eq_some_iff_record
    {v : Value}
    {x : StateId} :
    StateId.ofJson? v = some x ↔
      ∃ automaton index, Record [("automaton", automaton), ("index", index)] v ∧
        StateId.ofParts? automaton index = some x := by
  constructor
  · intro h
    unfold StateId.ofJson? at h
    split at h
    · next automaton index =>
        exact ⟨automaton, index, .array, h⟩
    · next fields =>
        split at h
        · next automaton index hautomaton hindex =>
            exact ⟨automaton, index, record_obj_iff.2 (by simp [hautomaton, hindex]), h⟩
        · cases h
    · cases h
  · rintro ⟨automaton, index, hrecord, h⟩
    cases hrecord with
    | object honce =>
        have hvalues := record_obj_iff.1 (.object honce)
        have hautomaton := hvalues ("automaton", automaton) (by simp)
        have hindex := hvalues ("index", index) (by simp)
        simpa only [StateId.ofJson?, hautomaton, hindex] using h
    | array =>
        exact h

theorem StateId.ofJson?_eq_some_iff
    {v : Value}
    {x : StateId} :
    StateId.ofJson? v = some x ↔ x.HasForm v := by
  rw [StateId.ofJson?_eq_some_iff_record, StateId.HasForm]
  simp only [StateId.ofParts?_eq_some_iff]
  constructor
  · rintro ⟨automaton, index, hrecord, rfl, rfl, hx⟩
    exact ⟨hrecord, hx⟩
  · rintro ⟨hrecord, hx⟩
    exact ⟨_, _, hrecord, rfl, rfl, hx⟩

theorem State.labelOfJson?_eq_some_iff
    {v : Value}
    {label : Option String} :
    State.labelOfJson? v = some label ↔ State.LabelHasForm label v := by
  constructor
  · intro h
    unfold State.labelOfJson? at h
    split at h
    · cases h
      exact .none
    · cases h
      exact .some _
    · cases h
  · rintro (_ | _) <;> rfl

theorem State.ofParts?_eq_some_iff
    {id label : Value}
    {s : State} :
    State.ofParts? id label = some s ↔ s.id.HasForm id ∧ State.LabelHasForm s.label label := by
  obtain ⟨x, l⟩ := s
  simp [State.ofParts?, Option.bind_eq_some_iff, StateId.ofJson?_eq_some_iff,
    State.labelOfJson?_eq_some_iff]

/-- A state is decoded from the parts of a record, or from an object without a label. -/
theorem State.ofJson?_eq_some_iff_record
    {v : Value}
    {s : State} :
    State.ofJson? v = some s ↔
      (∃ id label, Record [("id", id), ("label", label)] v ∧ State.ofParts? id label = some s) ∨
        ∃ fields id, v = .obj fields ∧ Once fields "id" id ∧ Absent fields "label" ∧
          State.ofParts? id .null = some s := by
  simp only [← valuesOf_eq_singleton_iff, ← valuesOf_eq_nil_iff]
  constructor
  · intro h
    unfold State.ofJson? at h
    split at h
    · next id label =>
        exact Or.inl ⟨id, label, .array, h⟩
    · next fields =>
        split at h
        · next id label hid hlabel =>
            exact Or.inl ⟨id, label, record_obj_iff.2 (by simp [hid, hlabel]), h⟩
        · next id hid hlabel =>
            exact Or.inr ⟨fields, id, rfl, hid, hlabel, h⟩
        · cases h
    · cases h
  · rintro (⟨id, label, hrecord, h⟩ | ⟨fields, id, rfl, hid, hlabel, h⟩)
    · cases hrecord with
      | object honce =>
          have hvalues := record_obj_iff.1 (.object honce)
          have hid := hvalues ("id", id) (by simp)
          have hlabel := hvalues ("label", label) (by simp)
          simpa only [State.ofJson?, hid, hlabel] using h
      | array =>
          exact h
    · simpa only [State.ofJson?, hid, hlabel] using h

theorem State.ofJson?_eq_some_iff
    {v : Value}
    {s : State} :
    State.ofJson? v = some s ↔ s.HasForm v := by
  rw [State.ofJson?_eq_some_iff_record]
  simp only [State.ofParts?_eq_some_iff]
  constructor
  · rintro (⟨id, label, hrecord, hid, hlabel⟩ | ⟨fields, id, rfl, honce, habsent, hid, hlabel⟩)
    · exact .record hid hlabel hrecord
    · have hnone : s.label = none := by
        cases h : s.label with
        | none =>
            rfl
        | some label =>
            rw [h] at hlabel
            cases hlabel
      exact .unlabeled hid hnone honce habsent
  · intro h
    cases h with
    | record hid hlabel hrecord =>
        exact Or.inl ⟨_, _, hrecord, hid, hlabel⟩
    | unlabeled hid hnone honce habsent =>
        refine Or.inr ⟨_, _, rfl, honce, habsent, hid, ?_⟩
        rw [hnone]
        exact .none

theorem GrammarSymbol.ofJson?_eq_some_iff
    {v : Value}
    {a : GrammarSymbol} :
    GrammarSymbol.ofJson? v = some a ↔ a.HasForm v := by
  constructor
  · intro h
    unfold GrammarSymbol.ofJson? at h
    split at h
    · split at h
      · next hkind =>
          cases h
          subst hkind
          exact .endOfInput
      · cases h
    · split at h
      · next hkind =>
          cases h
          subst hkind
          exact .terminal _
      · split at h
        · next hkind =>
            cases h
            subst hkind
            exact .nonTerminal _
        · cases h
    · split at h
      · next hkind =>
          cases h
          subst hkind
          exact .endOfInputField
      · cases h
    · cases h
  · rintro (_ | _ | _ | _) <;> rfl

theorem Transition.ofParts?_eq_some_iff
    {origin symbol destination : Value}
    {t : Transition GrammarSymbol} :
    Transition.ofParts? origin symbol destination = some t ↔
      t.origin.HasForm origin ∧ t.symbol.HasForm symbol ∧ t.destination.HasForm destination := by
  obtain ⟨x, a, y⟩ := t
  simp only [Transition.ofParts?, Option.bind_eq_some_iff, Option.map_eq_some_iff,
    StateId.ofJson?_eq_some_iff, GrammarSymbol.ofJson?_eq_some_iff, Transition.mk.injEq]
  constructor
  · rintro ⟨_, horigin, _, hsymbol, _, hdestination, rfl, rfl, rfl⟩
    exact ⟨horigin, hsymbol, hdestination⟩
  · rintro ⟨horigin, hsymbol, hdestination⟩
    exact ⟨x, horigin, a, hsymbol, y, hdestination, rfl, rfl, rfl⟩

/-- A transition is decoded from the parts of a record. -/
theorem Transition.ofJson?_eq_some_iff_record
    {v : Value}
    {t : Transition GrammarSymbol} :
    Transition.ofJson? v = some t ↔
      ∃ origin symbol destination,
        Record [("origin", origin), ("symbol", symbol), ("destination", destination)] v ∧
          Transition.ofParts? origin symbol destination = some t := by
  constructor
  · intro h
    unfold Transition.ofJson? at h
    split at h
    · next origin symbol destination =>
        exact ⟨origin, symbol, destination, .array, h⟩
    · next fields =>
        split at h
        · next origin symbol destination horigin hsymbol hdestination =>
            exact ⟨origin, symbol, destination,
              record_obj_iff.2 (by simp [horigin, hsymbol, hdestination]), h⟩
        · cases h
    · cases h
  · rintro ⟨origin, symbol, destination, hrecord, h⟩
    cases hrecord with
    | object honce =>
        have hvalues := record_obj_iff.1 (.object honce)
        have horigin := hvalues ("origin", origin) (by simp)
        have hsymbol := hvalues ("symbol", symbol) (by simp)
        have hdestination := hvalues ("destination", destination) (by simp)
        simpa only [Transition.ofJson?, horigin, hsymbol, hdestination] using h
    | array =>
        exact h

theorem Transition.ofJson?_eq_some_iff
    {v : Value}
    {t : Transition GrammarSymbol} :
    Transition.ofJson? v = some t ↔ t.HasForm v := by
  rw [Transition.ofJson?_eq_some_iff_record, Transition.HasForm]
  simp only [Transition.ofParts?_eq_some_iff]
  constructor
  · rintro ⟨origin, symbol, destination, hrecord, horigin, hsymbol, hdestination⟩
    exact ⟨origin, symbol, destination, horigin, hsymbol, hdestination, hrecord⟩
  · rintro ⟨origin, symbol, destination, horigin, hsymbol, hdestination, hrecord⟩
    exact ⟨origin, symbol, destination, hrecord, horigin, hsymbol, hdestination⟩

namespace Json

/-- A value is decoded to a thing if and only if it has the form of the thing, for identifiers,
states, symbols and transitions; and the numbers that these forms take are the literals of digits
only, without a sign, a fraction or an exponent. -/
theorem ofJson?_iff_hasForm :
    (∀ v x, StateId.ofJson? v = some x ↔ x.HasForm v) ∧
    (∀ v s, State.ofJson? v = some s ↔ s.HasForm v) ∧
    (∀ v a, GrammarSymbol.ofJson? v = some a ↔ a.HasForm v) ∧
    (∀ v t, Transition.ofJson? v = some t ↔ t.HasForm v) ∧
    ∀ literal n, readNumber literal = some (.nat n, []) ↔ literal = Nat.toDigits 10 n := by
  refine ⟨?_, ?_, ?_, ?_, ?_⟩
  · exact fun _ _ => StateId.ofJson?_eq_some_iff
  · exact fun _ _ => State.ofJson?_eq_some_iff
  · exact fun _ _ => GrammarSymbol.ofJson?_eq_some_iff
  · exact fun _ _ => Transition.ofJson?_eq_some_iff
  · exact fun _ _ => readNumber_eq_nat_iff

/-- Fields may stand in any order and among others, but the name of a part must not be repeated. -/
example :
    let id : Value :=
      .obj [("index", .nat 1), ("note", .null), ("automaton", .nat 0), ("note", .nat 2)]
    State.ofJson? (.obj [("id", id)]) = some ⟨⟨.first, 1⟩, none⟩ ∧
      State.ofJson? (.obj [("label", .str "x"), ("id", id)]) = some ⟨⟨.first, 1⟩, some "x"⟩ ∧
      State.ofJson? (.obj [("id", id), ("label", .null), ("label", .null)]) = none := by
  decide

end Json

end GotoAutomaton
