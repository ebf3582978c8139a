import GotoAutomaton.Json.Codec
import GotoAutomaton.Proofs.Json.Reading

/-!
# Decoding undoes encoding

The JSON forms of identifiers, states, symbols and transitions are read back from their texts.
Every form is a proper value, so that its text is read as the form itself, and what is left is to
decode the form: each part of a record occurs once, under its own name, and the numbers are words of
the widths that the decoder asks for.

Main statement: `Json.forms_round_trip`.
-/

namespace GotoAutomaton

/-- The position is a 64-bit word, as the decoder asks. -/
def StateId.IsWord (x : StateId) : Prop :=
  x.index < UInt64.size

instance (x : StateId) : Decidable x.IsWord :=
  inferInstanceAs (Decidable (x.index < UInt64.size))

namespace Json

/-- Encoding loses nothing of the values with a property: they are decoded from their texts, and no
two of them have the same text. -/
structure RoundTrips
    {α : Type}
    (P : α → Prop)
    (toJson : α → Value)
    (ofJson? : Value → Option α) : Prop where
  decode : ∀ a, P a → (Value.read? (toJson a).text).bind ofJson? = some a
  injective : ∀ a b, P a → P b → (toJson a).text = (toJson b).text → a = b

/-- Proper forms that are decoded to what they were made of are decoded from their texts. -/
theorem RoundTrips.of_proper
    {α : Type}
    {P : α → Prop}
    {toJson : α → Value}
    {ofJson? : Value → Option α}
    (hproper : ∀ a, (toJson a).Proper)
    (hdecode : ∀ a, P a → ofJson? (toJson a) = some a) :
    RoundTrips P toJson ofJson? := by
  have hread (a : α) (ha : P a) : (Value.read? (toJson a).text).bind ofJson? = some a := by
    rw [(hproper a).read?_text, Option.bind_some, hdecode a ha]
  refine ⟨hread, fun a b ha hb htext => ?_⟩
  have hsome : some a = some b := by
    rw [← hread a ha, ← hread b hb, htext]
  exact Option.some.inj hsome

end Json

open Json

theorem Tag.ofJson?_toJson (k : Tag) : Tag.ofJson? k.toJson = some k := by
  rw [toJson, ofJson?, if_pos k.number.toNat_lt_size, UInt32.ofNat_toNat]

theorem StateId.proper_toJson (x : StateId) : x.toJson.Proper := by
  refine .obj fun field hfield => ?_
  simp only [List.mem_cons, List.not_mem_nil, or_false] at hfield
  rcases hfield with rfl | rfl
  · exact .nat x.automaton.number.toNat
  · exact .nat x.index

theorem StateId.ofJson?_toJson
    {x : StateId}
    (hx : x.IsWord) :
    StateId.ofJson? x.toJson = some x := by
  have hindex : indexOfJson? (.nat x.index) = some x.index :=
    if_pos hx
  have hparts : ofParts? x.automaton.toJson (.nat x.index) = some x := by
    rw [ofParts?, Tag.ofJson?_toJson, Option.bind_some, hindex, Option.map_some]
  exact hparts

theorem State.proper_labelToJson (label : Option String) : (labelToJson label).Proper := by
  cases label with
  | none =>
      exact .null
  | some label =>
      exact .str label

theorem State.labelOfJson?_labelToJson (label : Option String) :
    labelOfJson? (labelToJson label) = some label := by
  cases label <;> rfl

theorem State.proper_toJson (s : State) : s.toJson.Proper := by
  refine .obj fun field hfield => ?_
  simp only [List.mem_cons, List.not_mem_nil, or_false] at hfield
  rcases hfield with rfl | rfl
  · exact s.id.proper_toJson
  · exact proper_labelToJson s.label

theorem State.ofJson?_toJson
    {s : State}
    (hs : s.id.IsWord) :
    State.ofJson? s.toJson = some s := by
  have hparts : ofParts? s.id.toJson (labelToJson s.label) = some s := by
    rw [ofParts?, StateId.ofJson?_toJson hs, Option.bind_some, labelOfJson?_labelToJson,
      Option.map_some]
  exact hparts

theorem GrammarSymbol.proper_toJson (a : GrammarSymbol) : a.toJson.Proper := by
  have hnamed (kind name : String) : (Value.obj [(kind, .str name)]).Proper := by
    refine .obj fun field hfield => ?_
    rw [List.mem_singleton.1 hfield]
    exact .str name
  cases a with
  | terminal name =>
      exact hnamed "Terminal" name
  | nonTerminal name =>
      exact hnamed "NonTerminal" name
  | endOfInput =>
      exact .str "EndOfInput"

theorem GrammarSymbol.ofJson?_toJson (a : GrammarSymbol) :
    GrammarSymbol.ofJson? a.toJson = some a := by
  cases a <;> rfl

theorem Transition.proper_toJson (t : Transition GrammarSymbol) : t.toJson.Proper := by
  refine .obj fun field hfield => ?_
  simp only [List.mem_cons, List.not_mem_nil, or_false] at hfield
  rcases hfield with rfl | rfl | rfl
  · exact t.origin.proper_toJson
  · exact t.symbol.proper_toJson
  · exact t.destination.proper_toJson

theorem Transition.ofJson?_toJson
    {t : Transition GrammarSymbol}
    (horigin : t.origin.IsWord)
    (hdestination : t.destination.IsWord) :
    Transition.ofJson? t.toJson = some t := by
  have hparts :
      ofParts? t.origin.toJson t.symbol.toJson t.destination.toJson = some t := by
    rw [ofParts?, StateId.ofJson?_toJson horigin, Option.bind_some, GrammarSymbol.ofJson?_toJson,
      Option.bind_some, StateId.ofJson?_toJson hdestination, Option.map_some]
  exact hparts

namespace Json

/-- Every identifier, state, symbol and transition is decoded from the text that it is encoded as,
whatever its names and labels are, and different ones have different texts. -/
theorem forms_round_trip :
    RoundTrips StateId.IsWord StateId.toJson StateId.ofJson? ∧
    RoundTrips (fun s : State => s.id.IsWord) State.toJson State.ofJson? ∧
    RoundTrips (fun _ : GrammarSymbol => True) GrammarSymbol.toJson GrammarSymbol.ofJson? ∧
    RoundTrips (fun t : Transition GrammarSymbol => t.origin.IsWord ∧ t.destination.IsWord)
      Transition.toJson Transition.ofJson? := by
  refine ⟨?_, ?_, ?_, ?_⟩
  · exact .of_proper StateId.proper_toJson fun x hx => StateId.ofJson?_toJson hx
  · exact .of_proper State.proper_toJson fun s hs => State.ofJson?_toJson hs
  · exact .of_proper GrammarSymbol.proper_toJson fun a _ => GrammarSymbol.ofJson?_toJson a
  · exact .of_proper Transition.proper_toJson fun t ht => Transition.ofJson?_toJson ht.1 ht.2

/-- The last state of the last automaton, under a label that quotes, breaks its line, controls and
leaves the first plane. -/
theorem forms_round_trip_last :
    let s : State := ⟨⟨⟨4294967295⟩, 18446744073709551615⟩, some "\"\\\n\u0001𝄞"⟩
    s.id.IsWord ∧
    s.toJson.text =
      "\x7b\"id\":\x7b\"automaton\":4294967295,\"index\":18446744073709551615\x7d," ++
        "\"label\":\"\\\"\\\\\\n\\u0001𝄞\"\x7d" ∧
    (Value.read? s.toJson.text).bind State.ofJson? = some s := by
  refine ⟨by decide, ?_, ?_⟩
  · decide
  · exact forms_round_trip.2.1.decode _ (by decide)

end Json

end GotoAutomaton
